import BluetoothControl.Text.Blank
import BluetoothControl.Text.Digit

/-!
# Whole numbers in text

A numeral is an optional sign and decimal digits of any script, with single underscores allowed
between digits and blanks allowed around.  More than `digitLimit` digits are refused, leading zeros
counted.
-/

namespace BluetoothControl.Decimal

open BluetoothControl.Text

/-! ## Algorithm -/

/-- The most digits that a numeral may have. -/
def digitLimit : Nat := 4300

/-- The blanks around a numeral; of the ASCII controls only tab to carriage return count. -/
def isNumeralBlank (c : Char) : Bool :=
  if c.toNat < 0x80 then (0x9 ≤ c.toNat && c.toNat ≤ 0xD) || c == ' ' else isBlank c

/-- Numeral blanks taken off both ends. -/
def trimNumeral (cs : List Char) : List Char :=
  ((cs.dropWhile isNumeralBlank).reverse.dropWhile isNumeralBlank).reverse

/-- Digits, with at most one underscore between two of them and at least one digit. -/
def digits? : List Char → Option (List Nat)
  | [] => none
  | [c] => (digitValue? c).map fun v => [v]
  | c :: '_' :: rest => (digitValue? c).bind fun v => (digits? rest).map (v :: ·)
  | c :: d :: rest => (digitValue? c).bind fun v => (digits? (d :: rest)).map (v :: ·)

/-- The number that digits spell, most significant first. -/
def ofDigits (ds : List Nat) : Nat := ds.foldl (fun n d => 10 * n + d) 0

/-- An unsigned numeral within the limit. -/
def magnitude? (cs : List Char) : Option Nat :=
  (digits? cs).bind fun ds => if ds.length ≤ digitLimit then some (ofDigits ds) else none

/-- The number that a text spells. -/
def readInt? (cs : List Char) : Option Int :=
  match trimNumeral cs with
  | '-' :: rest => (magnitude? rest).map fun n => -(n : Int)
  | '+' :: rest => (magnitude? rest).map fun n => (n : Int)
  | rest => (magnitude? rest).map fun n => (n : Int)

/-- The text of a whole number. -/
def intText (n : Int) : String :=
  String.ofList ((if n < 0 then ['-'] else []) ++ Nat.toDigits 10 n.natAbs)

/-! ## Lemmas -/

theorem digits?_ne_nil {cs : List Char} {ds : List Nat} (h : digits? cs = some ds) : ds ≠ [] := by
  fun_cases digits? cs <;>
    simp only [digits?, Option.bind_eq_some_iff, Option.map_eq_some_iff, reduceCtorEq] at h <;>
    grind

end BluetoothControl.Decimal
