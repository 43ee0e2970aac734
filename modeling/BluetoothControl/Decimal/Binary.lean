/-!
# Binary fractions

A finite floating-point number is a whole number of powers of two; its bits give both exactly.
-/

namespace BluetoothControl.Decimal

/-- A power of two. -/
def twoTo (n : Nat) : Nat := Nat.pow 2 n

/-- A power of ten. -/
def tenTo (n : Nat) : Nat := Nat.pow 10 n

/-- The number `±mantissa · 2 ^ exponent`. -/
structure Binary where
  negative : Bool
  mantissa : Nat
  exponent : Int
  deriving Repr, DecidableEq

/-- The least exponent of a floating-point number. -/
def leastExponent : Int := -1074

/-- The mantissa that a normal number has at least. -/
def hiddenBit : Nat := twoTo 52

/-- The exact value of a floating-point number, if it is finite. -/
def Binary.ofFloat? (x : Float) : Option Binary :=
  let bits := x.toBits.toNat
  let negative := bits / twoTo 63 == 1
  let biased := bits / hiddenBit % 2048
  let fraction := bits % hiddenBit
  if biased = 2047 then none
  else if biased = 0 then some ⟨negative, fraction, leastExponent⟩
  else some ⟨negative, hiddenBit + fraction, leastExponent + (biased - 1 : Nat)⟩

/-- The text of a number that is not finite. -/
def unboundedText (x : Float) : String :=
  if x.isNaN then "nan" else if x < 0 then "-inf" else "inf"

end BluetoothControl.Decimal
