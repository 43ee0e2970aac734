import BluetoothControl.Text.UpperCase

/-!
# Object paths

The management service names adapters and devices by object paths: an adapter's path is its name
under the service's root, a device's path is its address under its adapter.  `isChild` matches whole
path elements, so `hci1` owns nothing of `hci10`.
-/

namespace BluetoothControl.ObjectPath

open BluetoothControl.Text

/-! ## Algorithm -/

/-- Where the management service keeps its adapters. -/
def root : String := "/org/bluez"

/-- The object path of an adapter. -/
def ofAdapter (adapter : String) : String := root ++ "/" ++ adapter

/-- The last element of a device's path: its address in upper case, colons replaced. -/
def deviceElement (address : String) : String :=
  "dev_" ++ String.ofList ((upper address.toList).map fun c => if c = ':' then '_' else c)

/-- The object path of a device on an adapter. -/
def ofDevice (address adapter : String) : String :=
  ofAdapter adapter ++ "/" ++ deviceElement address

/-- Whether a path names an object that an adapter owns. -/
def isChild (path adapter : String) : Bool :=
  (ofAdapter adapter ++ "/").toList.isPrefixOf path.toList

/-- A character of a path element. -/
def isElementChar (c : Char) : Bool :=
  ('A' ≤ c && c ≤ 'Z') || ('a' ≤ c && c ≤ 'z') || ('0' ≤ c && c ≤ '9') || c == '_'

/-- Non-empty elements with single slashes between them, each of which may end in a line break;
`entered` says that the element at hand has a character already. -/
def areElements (entered : Bool) : List Char → Bool
  | [] => entered
  | ['\n'] => entered
  | '\n' :: '/' :: rest => entered && areElements false rest
  | '/' :: rest => entered && areElements false rest
  | c :: rest => isElementChar c && areElements true rest

/-- The form of an object path: the root, or elements each after a slash. -/
def isValid (path : String) : Bool :=
  match path.toList with
  | ['/'] => true
  | '/' :: rest => areElements false rest
  | _ => false

/-! ## Lemmas -/

theorem isChild_iff (path adapter : String) :
    isChild path adapter ↔ (ofAdapter adapter ++ "/").toList <+: path.toList := by
  simp [isChild]

end BluetoothControl.ObjectPath
