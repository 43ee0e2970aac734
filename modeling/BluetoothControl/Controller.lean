import BluetoothControl.Client.Requests
import BluetoothControl.Host.Classic

/-!
# Controllers

A controller runs one adapter: it switches the adapter and waits until the switch is seen, starts
and stops discovery, connects devices, and reads classic devices through the host.  Every change is
made only after a read that calls for it.
-/

namespace BluetoothControl

/-- A controller of one adapter. -/
structure Controller (κ : Type) where
  name : String
  config : Config := {}
  service : Service κ
  /-- Whether closing the controller closes the service too. -/
  ownsService : Bool := false

namespace Controller

variable {κ : Type}

/-- A controller with a client of its own. -/
def ofName (name : String) (config : Config := {}) : Controller Client :=
  { name, config, service := Client.service, ownsService := true }

/-- The world that a controller with a client of its own starts in. -/
def firstWorld (name : String) (config : Config := {}) (link : Link := {}) : World Client :=
  .started name { link, callTimeout := config.callTimeout }

/-- The object path of the adapter. -/
def path (c : Controller κ) : String := ObjectPath.ofAdapter c.name

/-- The text of a controller. -/
def title (c : Controller κ) : String :=
  "InterfaceController(" ++ Text.quotedText c.name ++ ")"

/-! ## Power -/

/-- Whether the adapter is powered. -/
def isUp (c : Controller κ) : Action κ Value := c.service.getPowered c.path

/-- Reads the power state until it equals what is wanted, at most so many times, with pauses
between. -/
def awaitPower (c : Controller κ) (wanted : Bool) : Nat → Action κ Unit
  | 0 => throw (.powerUnchanged c.name)
  | n + 1 => do
    let powered ← c.isUp
    if powered.agrees wanted then return
    if n ≠ 0 then World.pause c.config.powerDelay
    c.awaitPower wanted n

/-- How many reads the configuration allows, which is counted only when it comes to them. -/
def attempts (c : Controller κ) : Except Failure Nat :=
  match c.config.powerAttempts.int? with
  | some n => .ok n.toNat
  | none => .error .wrongType

/-- Switches the adapter, unless what it reports has the wanted truth, and waits until the switch is
seen. -/
def switchPower (c : Controller κ) (wanted : Bool) : Action κ Unit := do
  let powered ← c.isUp
  if powered.truth == wanted then return
  c.service.setPowered c.path wanted
  let attempts ← Procedure.ofExcept c.attempts
  c.awaitPower wanted attempts

/-! ## Discovery -/

/-- The filter that limits discovery to the transport of the configuration. -/
def filter (c : Controller κ) : Props := [("Transport", c.config.transport)]

/-- Starts discovery unless it runs.  A service that refuses to start it, as one does while the
adapter is off, is left alone. -/
def startDiscovery (c : Controller κ) : Action κ Unit := do
  if ← c.service.getDiscovering c.path then return
  c.service.setDiscoveryFilter c.path c.filter
  Procedure.ignoring (·.isA .service) (c.service.startDiscovery c.path)

/-- Stops discovery if it runs. -/
def stopDiscovery (c : Controller κ) : Action κ Unit := do
  if ← c.service.getDiscovering c.path then c.service.stopDiscovery c.path

/-! ## Up and down -/

/-- Switches the adapter on.  Some adapters report ready only while discovering, so discovery is
started first if it can be. -/
def up (c : Controller κ) : Action κ Unit := do
  Procedure.ignoring (·.isA .service) c.startDiscovery
  c.switchPower true

/-- Switches the adapter off, after everyone waiting was woken. -/
def down (c : Controller κ) : Action κ Unit := do
  World.wakeAll
  c.switchPower false

/-- Switches the adapter off and on. -/
def reset (c : Controller κ) : Action κ Unit := do
  c.down
  c.up

/-! ## Devices -/

/-- Connects a device unless it is connected. -/
def connect (c : Controller κ) (address : String) (timeout : Seconds) : Action κ Connection := do
  let address ← Procedure.ofExcept (Address.normalize address)
  let path := ObjectPath.ofDevice address c.name
  let connected ← c.service.getConnected path
  if !connected.truth then c.service.connect path timeout
  let connection : Connection := { adapter := c.name, address, path, timeout }
  modify fun w => { w with connections := w.connections ++ [connection] }
  return connection

/-- The classic devices in range. -/
def inquire (c : Controller κ) : Action κ (Roster String) := World.onHost (Classic.scan c.name)

/-- Whether a classic device answers. -/
def detect (c : Controller κ) (address : String) : Action κ Bool :=
  World.onHost (Classic.detect c.name address)

/-- The device information of the adapter. -/
def info (c : Controller κ) : Action κ DeviceInfo := World.onHost (Classic.info c.name)

/-! ## End -/

/-- Stops discovery, closes a service of its own and ends the loop, each whatever became of the one
before; a closed controller is left alone. -/
def close (c : Controller κ) : Action κ Unit := do
  if (← get).closed then return
  modify fun w => { w with closed := true }
  World.wakeAll
  Procedure.ignoring (·.kind.isOrdinary) c.stopDiscovery
  if c.ownsService then Procedure.ignoring (·.kind.isOrdinary) c.service.close
  Procedure.ignoring (·.kind.isOrdinary) (World.onLoop (EventLoop.stop c.config.joinTimeout))

end Controller

end BluetoothControl
