/-!
# Hexadecimal digits

Numbers written in base sixteen with a fixed least width, in either case.
-/

namespace BluetoothControl.Text

/-! ## Algorithm -/

/-- The digit of a value below sixteen, lower case. -/
def hexDigit (n : Nat) : Char := if n < 10 then Char.ofNat (48 + n) else Char.ofNat (87 + n)

/-- The digit of a value below sixteen, upper case. -/
def upperHexDigit (n : Nat) : Char := if n < 10 then Char.ofNat (48 + n) else Char.ofNat (55 + n)

/-- The last `width` lower-case digits of `n`. -/
def hexPadded (n : Nat) : Nat → List Char
  | 0 => []
  | width + 1 => hexPadded (n / 16) width ++ [hexDigit (n % 16)]

/-- A byte as two upper-case digits. -/
def upperHexByte (b : UInt8) : List Char :=
  [upperHexDigit (b.toNat / 16), upperHexDigit (b.toNat % 16)]

/-- A byte as two lower-case digits. -/
def hexByte (b : UInt8) : List Char := hexPadded b.toNat 2

/-! ## Lemmas -/

theorem length_hexPadded (n width : Nat) : (hexPadded n width).length = width := by
  induction width generalizing n with
  | zero => rfl
  | succ w ih => simp [hexPadded, ih]

end BluetoothControl.Text
