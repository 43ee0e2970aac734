import BluetoothControl.Seconds
import BluetoothControl.Text.Quoted

/-!
# Connections

What a caller holds after it connected a device: where the device is and the bound that the
connection was opened with.  It is a value, so nothing that happens to the controller changes it.
-/

namespace BluetoothControl

/-- A link to a device. -/
structure Connection where
  adapter : String
  address : String
  path : String
  timeout : Seconds
  deriving Repr, Inhabited

/-- What points another library at a device. -/
structure Endpoint where
  address : String
  name : Option String
  path : String
  deriving Repr, DecidableEq

namespace Connection

/-- The device, by the object path on the adapter of the connection. -/
def endpoint (c : Connection) : Endpoint := ⟨c.address, none, c.path⟩

/-- The text of a connection. -/
def title (c : Connection) : String :=
  "Connection(adapter=" ++ Text.quotedText c.adapter ++ ", address=" ++
    Text.quotedText c.address ++ ", timeout=" ++ c.timeout.literal ++ ")"

end Connection

end BluetoothControl
