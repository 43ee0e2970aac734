import BluetoothControl.Controller

/-!
# Scans

A scan notes the known devices of the adapter, then those announced while it is subscribed, and
answers with the devices that still report a signal when its wait is over.  It falls into three
parts with others acting between them: it subscribes (`enroll`), starts discovery and comes to wait
(`embark`), and goes on after its wait (`finishScan`).
-/

namespace BluetoothControl

/-- A scan that has subscribed. -/
structure Scan where
  session : Nat
  /-- The handle of its subscription. -/
  subscription : Value
  /-- How long it waits. -/
  timeout : Seconds
  deriving Repr

namespace Controller

variable {κ : Type}

/-! ## Before the wait -/

/-- A known device is noted; one that the service fails on or that has no valid address is left
out. -/
def noteDevice (c : Controller κ) (session : Nat) (path : String) : Action κ Unit :=
  Procedure.ignoring (fun f => f.isA .service || f.isA .badValue) do
    let reported ← c.service.getAddress path
    let address ← Procedure.ofExcept (Address.normalize reported)
    let name ← c.service.getName path
    World.changeSession session fun s => s.add address name

/-- An object that the service lists is noted if it belongs to the adapter. -/
def noteObject (c : Controller κ) (session : Nat) (object : Value) : Action κ Unit := do
  match ← Procedure.ofExcept (DiscoverySession.ownPath? c.name object) with
  | some path => c.noteDevice session path
  | none => return

/-- The known devices of the adapter are noted. -/
def noteKnown (c : Controller κ) (session : Nat) : Action κ Unit := do
  let objects ← c.service.listObjects deviceInterface
  Procedure.forEach (c.noteObject session) objects

/-- The subscription of a scan is given up; if the loop has stopped it is gone already. -/
def giveUp (c : Controller κ) (subscription : Value) : Action κ Unit :=
  Procedure.ignoring (·.isA .loopStopped) (c.service.unsubscribe subscription)

/-- All that a scan does up to its subscription. -/
def enroll (c : Controller κ) (timeout : Seconds) : Action κ Scan := do
  let session ← World.openSession timeout
  c.noteKnown session
  let subscription ← c.service.subscribe (.session session c.name)
  return { session, subscription, timeout }

/-- A scan that has subscribed starts discovery and comes to wait.  If it cannot, it gives up its
subscription. -/
def embark (c : Controller κ) (s : Scan) : Action κ Unit :=
  tryCatch
    (do
      c.startDiscovery
      World.await s.timeout)
    fun f => do
      c.giveUp s.subscription
      throw f

/-- All that a scan does before it waits, with what others do once it has subscribed. -/
def beginScan (c : Controller κ) (timeout : Seconds) (early : Action κ Unit) :
    Action κ Scan := do
  let s ← c.enroll timeout
  discard early.attempt
  c.embark s
  return s

/-! ## After the wait -/

/-- The signal strength of a device, none at all if the service fails on it. -/
def strength (c : Controller κ) (address : String) : Action κ Int :=
  tryCatch (c.service.getRssi (ObjectPath.ofDevice address c.name)) fun f =>
    if f.isA .service then return 0 else throw f

/-- The devices that report a signal. -/
def visible (c : Controller κ) : Roster Value → Action κ (Roster Value)
  | [] => return []
  | (address, name) :: rest => do
    let strength ← c.strength address
    let others ← c.visible rest
    return if strength = 0 then others else (address, name) :: others

/-- All that a scan does after it waited. -/
def finishScan (c : Controller κ) (s : Scan) : Action κ (Roster Value) := do
  c.giveUp s.subscription
  let found ← c.visible ((← get).session s.session).devices
  World.changeSession s.session fun t => { t with result := some found }
  return found

/-! ## The whole -/

/-- A scan, with what others do once it has subscribed and while it waits. -/
def scan (c : Controller κ) (timeout : Seconds) (early : Action κ Unit := pure ())
    (meanwhile : Action κ Unit := pure ()) : Action κ (Roster Value) := do
  let s ← c.beginScan timeout early
  discard meanwhile.attempt
  c.finishScan s

end Controller

end BluetoothControl
