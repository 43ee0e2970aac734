import BluetoothControl.Decimal.Numeral
import BluetoothControl.Decimal.Shortest
import BluetoothControl.Text.Quoted
import BluetoothControl.Value

/-!
# Values as text

`Value.literal` writes a value so that its kind shows: texts and byte strings are quoted, lists and
maps bracketed.  `Value.display` is the same except that a text stands for itself.
-/

namespace BluetoothControl.Value

open BluetoothControl.Decimal BluetoothControl.Text

/-- Parts between separators. -/
def joined (separator : String) : List String → String
  | [] => ""
  | [s] => s
  | s :: rest => s ++ separator ++ joined separator rest

mutual

/-- The text of a value, quoted where it is a text. -/
def literal : Value → String
  | null => "None"
  | bool b => if b then "True" else "False"
  | int n => intText n
  | real x => shortestText x
  | text s => quotedText s
  | bytes bs => String.ofList (quotedBytes bs)
  | list items => "[" ++ joined ", " (literals items) ++ "]"
  | dict entries => "\x7b" ++ joined ", " (pairLiterals entries) ++ "\x7d"
  | variant signature (text s) => variantText signature s
  | variant signature v => variantText signature (literal v)

/-- The texts of several values. -/
def literals : List Value → List String
  | [] => []
  | v :: rest => literal v :: literals rest

/-- The texts of the entries of a map. -/
def pairLiterals : List (String × Value) → List String
  | [] => []
  | (k, v) :: rest => (quotedText k ++ ": " ++ literal v) :: pairLiterals rest

/-- The text of a variant around the text of its value. -/
def variantText (signature shown : String) : String :=
  "<dbus_fast.signature.Variant ('" ++ signature ++ "', " ++ shown ++ ")>"

end

/-- The name of a value's type. -/
def typeName : Value → String
  | null => "NoneType"
  | bool _ => "bool"
  | int _ => "int"
  | real _ => "float"
  | text _ => "str"
  | bytes _ => "bytes"
  | list _ => "list"
  | dict _ => "dict"
  | variant .. => "dbus_fast.signature.Variant"

/-- The text of a value, where a text stands for itself. -/
def display : Value → String
  | text s => s
  | v => literal v

end BluetoothControl.Value
