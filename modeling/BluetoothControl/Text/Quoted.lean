import BluetoothControl.Text.Hex
import BluetoothControl.Text.Printable

/-!
# Quoted text

How a text is shown inside a message: between apostrophes, or between quotation marks when it holds
an apostrophe and no quotation mark.  The mark in use and the backslash are escaped, line feed,
carriage return and tab have short escapes, and every other character that is not printable is
written by its code point in two, four or eight hexadecimal digits.
-/

namespace BluetoothControl.Text

/-! ## Algorithm -/

/-- The mark that encloses a text. -/
def quoteMark (cs : List Char) : Char :=
  if cs.contains '\'' && !cs.contains '"' then '"' else '\''

/-- A code point as an escape of the shortest form that holds it. -/
def escapeCode (n : Nat) : List Char :=
  if n < 0x100 then '\\' :: 'x' :: hexPadded n 2
  else if n < 0x10000 then '\\' :: 'u' :: hexPadded n 4
  else '\\' :: 'U' :: hexPadded n 8

/-- One character between marks `mark`. -/
def quoteChar (mark c : Char) : List Char :=
  if c = mark || c = '\\' then ['\\', c]
  else if c = '\n' then ['\\', 'n']
  else if c = '\r' then ['\\', 'r']
  else if c = '\t' then ['\\', 't']
  else if isPrintable c then [c]
  else escapeCode c.toNat

/-- A text between its marks. -/
def quoted (cs : List Char) : List Char :=
  let mark := quoteMark cs
  mark :: cs.flatMap (quoteChar mark) ++ [mark]

/-- `quoted` on strings. -/
def quotedText (s : String) : String := String.ofList (quoted s.toList)

/-- The mark that encloses a byte string. -/
def byteQuoteMark (bs : List UInt8) : Char :=
  if bs.contains 39 && !bs.contains 34 then '"' else '\''

/-- One byte between marks `mark`; bytes outside printable ASCII are written as numbers. -/
def quoteByte (mark : Char) (b : UInt8) : List Char :=
  let c := Char.ofNat b.toNat
  if c = mark || c = '\\' then ['\\', c]
  else if c = '\n' then ['\\', 'n']
  else if c = '\r' then ['\\', 'r']
  else if c = '\t' then ['\\', 't']
  else if 0x20 ≤ b && b < 0x7F then [c]
  else '\\' :: 'x' :: hexByte b

/-- A byte string between its marks, after the letter that tells it from a text. -/
def quotedBytes (bs : List UInt8) : List Char :=
  let mark := byteQuoteMark bs
  'b' :: mark :: bs.flatMap (quoteByte mark) ++ [mark]

/-! ## Lemmas -/

theorem quoteMark_eq (cs : List Char) : quoteMark cs = '"' ∨ quoteMark cs = '\'' := by
  unfold quoteMark; split <;> simp

end BluetoothControl.Text
