import BluetoothControl.Address
import BluetoothControl.ObjectPath
import BluetoothControl.Config
import BluetoothControl.Roster
import BluetoothControl.Value

/-!
# Discovery sessions

What one scan has learned: the devices noted while it lasts, and, once it is over, its result.  A
device keeps the name under which it was first noted.
-/

namespace BluetoothControl

/-- One scan of bounded duration. -/
structure DiscoverySession where
  timeout : Seconds
  devices : Roster Value := []
  result : Option (Roster Value) := none
  deriving Repr, Inhabited

namespace DiscoverySession

/-! ## Algorithm -/

/-- The name under which a device is entered. -/
def nameOf (name : Value) : Value := if name.truth then name else .text unknownName

/-- A device is noted. -/
def add (s : DiscoverySession) (address : String) (name : Value) : DiscoverySession :=
  { s with devices := s.devices.note address (nameOf name) }

/-- The device that an announcement of properties describes, if it has a valid address. -/
def announced? (props : Value) : Option (String × Value) :=
  match props with
  | .dict entries =>
    match Props.get? entries "Address" with
    | some (.text address) =>
      (Address.normalize address).toOption.map fun a =>
        (a, .ofText? ((Props.get? entries "Name").bind Value.text?))
    | _ => none
  | _ => none

/-- The path of an object that an adapter owns, if it is one; only texts can be paths. -/
def ownPath? (adapter : String) : Value → Except Failure (Option String)
  | .text path => .ok (if ObjectPath.isChild path adapter then some path else none)
  | .bytes _ => .error .wrongType
  | _ => .error .lacksOperation

/-- An announcement reaches the session of an adapter; those of other adapters pass by. -/
def hear (adapter : String) (path props : Value) (s : DiscoverySession) :
    Except Failure DiscoverySession := do
  match ← ownPath? adapter path, announced? props with
  | some _, some (address, name) => return s.add address name
  | _, _ => return s

/-! ## Lemmas -/

theorem truth_nameOf (name : Value) : (nameOf name).truth = true := by
  unfold nameOf
  split
  · assumption
  · decide

end DiscoverySession

end BluetoothControl
