import BluetoothControl.Connection
import BluetoothControl.Host.DeviceInfo
import BluetoothControl.Roster

/-!
# Answers

What an operation answers with, whichever it is, so that operations can be listed and run in turn.
-/

namespace BluetoothControl

/-- The answer of an operation. -/
inductive Answer
  | nothing
  | flag (b : Bool)
  | number (n : Int)
  | name (n : Option String)
  | paths (ps : List String)
  | props (ps : Props)
  /-- Whatever the service said. -/
  | value (v : Value)
  | roster (r : Roster Value)
  | info (i : DeviceInfo)
  | connection (c : Connection)
  /-- The operation is about a connection that was never made. -/
  | noConnection
  deriving Repr, Inhabited

end BluetoothControl
