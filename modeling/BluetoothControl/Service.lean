import BluetoothControl.Subscriber

/-!
# The management service

What a controller asks of whatever manages adapters and devices.  The client on the system bus
offers it, and so does a simulation.  An answer that reaches the caller as it came is a value of any
type, and what it says is up to whoever reads it.
-/

namespace BluetoothControl

/-- A management service with a state of type `κ`. -/
structure Service (κ : Type) where
  /-- Whether an adapter is powered. -/
  getPowered : String → Action κ Value
  /-- Switches an adapter. -/
  setPowered : String → Bool → Action κ Unit
  /-- Whether an adapter is discovering devices. -/
  getDiscovering : String → Action κ Bool
  /-- Limits what a scan finds. -/
  setDiscoveryFilter : String → Props → Action κ Unit
  /-- Has an adapter discover devices. -/
  startDiscovery : String → Action κ Unit
  /-- Has an adapter discover no more. -/
  stopDiscovery : String → Action κ Unit
  /-- The paths, in order, of the objects that have an interface. -/
  listObjects : String → Action κ (List Value)
  /-- The address that a device reports. -/
  getAddress : String → Action κ String
  /-- The name that a device reports, or nothing. -/
  getName : String → Action κ Value
  /-- The signal strength that a device reports, zero if none. -/
  getRssi : String → Action κ Int
  /-- Whether a device is connected. -/
  getConnected : String → Action κ Value
  /-- Connects a device under a bound. -/
  connect : String → Seconds → Action κ Unit
  /-- Disconnects a device. -/
  disconnect : String → Action κ Unit
  /-- Enters a subscriber for new devices, under a handle. -/
  subscribe : Subscriber → Action κ Value
  /-- Removes the subscription of a handle. -/
  unsubscribe : Value → Action κ Unit
  /-- Gives up whatever the service holds. -/
  close : Action κ Unit

namespace Connection

variable {κ : Type}

/-- Whether the device is connected now. -/
def isConnected (c : Connection) (s : Service κ) : Action κ Value := s.getConnected c.path

/-- Disconnects the device. -/
def disconnect (c : Connection) (s : Service κ) : Action κ Unit := s.disconnect c.path

end Connection

end BluetoothControl
