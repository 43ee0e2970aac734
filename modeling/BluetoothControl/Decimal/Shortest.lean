import BluetoothControl.Decimal.Fixed

/-!
# Shortest decimals

The decimal with the fewest digits that reads back as a given floating-point number, and of those
the nearest to it.  For each count of digits the two neighbours of the value on that decimal grid
are tested against the interval of reals that round to it; the first grid with a hit wins.
-/

namespace BluetoothControl.Decimal

/-! ## Algorithm -/

/-- A fraction of whole numbers. -/
structure Ratio where
  num : Nat
  den : Nat
  deriving Repr, DecidableEq

namespace Ratio

/-- `n · 2 ^ e`. -/
def scaleBinary (n : Nat) (e : Int) : Ratio := ⟨n * twoTo e.toNat, twoTo (-e).toNat⟩

/-- `n · 10 ^ e`. -/
def scaleDecimal (n : Nat) (e : Int) : Ratio := ⟨n * tenTo e.toNat, tenTo (-e).toNat⟩

/-- Order of fractions with positive denominators. -/
def lt (a b : Ratio) : Bool := a.num * b.den < b.num * a.den

/-- Twice the distance between two fractions, over the product of their denominators. -/
def gap (a b : Ratio) : Nat := (a.num * b.den - b.num * a.den) + (b.num * a.den - a.num * b.den)

end Ratio

/-- The reals that round to a number: its bounds, and whether they belong to it. -/
structure Cell where
  value : Ratio
  low : Ratio
  high : Ratio
  closed : Bool

/-- The cell of a positive binary fraction; below a power of two the grid is twice as fine. -/
def Binary.cell (b : Binary) : Cell :=
  let e := b.exponent - 2
  let below := if b.mantissa = hiddenBit && leastExponent < b.exponent then 1 else 2
  ⟨.scaleBinary (4 * b.mantissa) e, .scaleBinary (4 * b.mantissa - below) e,
    .scaleBinary (4 * b.mantissa + 2) e, b.mantissa % 2 == 0⟩

/-- Whether a fraction lies in a cell. -/
def Cell.holds (c : Cell) (r : Ratio) : Bool :=
  if c.closed then !r.lt c.low && !c.high.lt r else c.low.lt r && r.lt c.high

/-- The power of ten that is just above a positive fraction. -/
def Ratio.magnitude (r : Ratio) : Int :=
  if r.den ≤ r.num then (Nat.toDigits 10 (r.num / r.den)).length
  else
    match (List.range 400).find? fun j => r.den ≤ r.num * tenTo j with
    | some j => 1 - (j : Int)
    | none => 0

/-- The neighbour of the value on the grid of `count` digits that lies in the cell, if there is
one; of two the nearer, and at equal distance the even one. -/
def Cell.onGrid? (c : Cell) (magnitude : Int) (count : Nat) : Option (Nat × Int) :=
  let e := magnitude - count
  let d := c.value.num * tenTo (-e).toNat / (c.value.den * tenTo e.toNat)
  let down := Ratio.scaleDecimal d e
  let up := Ratio.scaleDecimal (d + 1) e
  match c.holds down && d ≠ 0, c.holds up with
  | true, true =>
    let below := c.value.gap down * up.den
    let above := c.value.gap up * down.den
    if below < above || (below == above && d % 2 == 0) then some (d, e) else some (d + 1, e)
  | true, false => some (d, e)
  | false, true => some (d + 1, e)
  | false, false => none

/-- The digits of the shortest decimal and the exponent of its last digit.  Seventeen digits always
suffice. -/
def Binary.shortest (b : Binary) : Nat × Int :=
  let c := b.cell
  let magnitude := c.value.magnitude
  ((List.range 17).findSome? fun i => c.onGrid? magnitude (i + 1)).getD (0, 0)

/-- Decides how the digits of a number are written out. -/
structure Layout where
  /-- Positional for magnitudes above this. -/
  leastMagnitude : Int
  /-- Positional for magnitudes up to this. -/
  mostMagnitude : Int
  /-- The least count of digits of an exponent. -/
  exponentWidth : Nat

/-- Positional from a ten-thousandth up to sixteen digits, else an exponent of two digits. -/
def general : Layout := ⟨-4, 16, 2⟩

/-- Trailing zeros moved into the exponent. -/
def stripZeros (digits : List Char) : List Char :=
  (digits.reverse.dropWhile (· == '0')).reverse

/-- The digits `0.d₁d₂… · 10 ^ magnitude`, written out. -/
def Layout.write (f : Layout) (digits : List Char) (magnitude : Int) : List Char :=
  if f.leastMagnitude < magnitude && magnitude ≤ f.mostMagnitude then
    if magnitude ≤ 0 then
      '0' :: '.' :: List.replicate (-magnitude).toNat '0' ++ digits
    else
      let k := magnitude.toNat
      let whole := digits.take k ++ List.replicate (k - digits.length) '0'
      whole ++ '.' :: (if digits.length ≤ k then ['0'] else digits.drop k)
  else
    let exponent := magnitude - 1
    let mark := if exponent < 0 then '-' else '+'
    digits.take 1 ++ (if digits.length ≤ 1 then [] else '.' :: digits.drop 1) ++
      'e' :: mark :: padZeros f.exponentWidth (Nat.toDigits 10 exponent.natAbs)

/-- The shortest text of a floating-point number; a whole one keeps a zero after its point. -/
def shortestText (x : Float) : String :=
  match Binary.ofFloat? x with
  | none => unboundedText x
  | some b =>
    let sign := if b.negative then ['-'] else []
    if b.mantissa = 0 then String.ofList (sign ++ "0.0".toList)
    else
      let (d, e) := b.shortest
      let digits := Nat.toDigits 10 d
      String.ofList (sign ++ general.write (stripZeros digits) (digits.length + e))

end BluetoothControl.Decimal
