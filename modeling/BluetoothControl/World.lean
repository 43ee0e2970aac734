import BluetoothControl.Connection
import BluetoothControl.DiscoverySession
import BluetoothControl.EventLoop
import BluetoothControl.Host

/-!
# The world of a controller

Everything a controller's operations read and change: the event loop, the host and its clock, the
discovery sessions begun so far, the connections handed out, the controller's own flags, and the
management service behind it, of a type `κ`.  The log holds all that was observed, in order.
-/

namespace BluetoothControl

/-- The state around one controller with a management service of type `κ`. -/
structure World (κ : Type) where
  service : κ
  loop : EventLoop
  host : Host := {}
  clock : Clock := .system
  /-- The scans begun so far. -/
  sessions : List DiscoverySession := []
  /-- The connections handed out so far. -/
  connections : List Connection := []
  /-- Whether the controller was closed. -/
  closed : Bool := false
  /-- How often everyone waiting was woken. -/
  wakes : Nat := 0
  /-- What was observed. -/
  log : List Event := []

/-- An operation on a world. -/
abbrev Action (κ : Type) := Procedure Failure (World κ)

namespace World

variable {κ ε : Type}

/-- A world whose loop was just started. -/
def started (name : String) (service : κ) : World κ :=
  { service, loop := { name, current := some {} } }

/-- The world with something observed. -/
def seeing (w : World κ) (e : Event) : World κ := { w with log := w.log ++ [e] }

/-- Something is observed. -/
def observe (e : Event) : Procedure ε (World κ) Unit := modify fun w => w.seeing e

/-- A wait under a bound begins, if anyone can wait so long. -/
def await (bound : Seconds) : Action κ Unit := do
  match (← get).clock.waitRefusal? bound with
  | some f => throw f
  | none => observe (.waited bound)

/-- Nothing happens for a while, if anyone can pause so long. -/
def pause (duration : Seconds) : Action κ Unit := do
  match (← get).clock.pauseRefusal? duration with
  | some f => throw f
  | none => observe (.slept duration)

/-- An operation of the loop. -/
def onLoop {α : Type} (p : LoopAction α) : Action κ α := fun w =>
  let (r, l) := p w.loop
  (r, { w with loop := { l with log := [] }, log := w.log ++ l.log })

/-- An operation of the host. -/
def onHost {α : Type} (p : HostAction α) : Action κ α := fun w =>
  let (r, h) := p w.host
  (r, { w with host := { h with log := [] }, log := w.log ++ h.log })

/-- Everyone waiting is woken. -/
def wakeAll : Action κ Unit := modify fun w => { w with wakes := w.wakes + 1 }

/-- The service changes. -/
def changeService (f : κ → κ) : Procedure ε (World κ) Unit :=
  modify fun w => { w with service := f w.service }

/-- A scan is begun. -/
def openSession (timeout : Seconds) : Action κ Nat :=
  modifyGet fun w => (w.sessions.length, { w with sessions := w.sessions ++ [{ timeout }] })

/-- A session of this world. -/
def session (w : World κ) (number : Nat) : DiscoverySession := w.sessions.getD number default

/-- A session changes. -/
def changeSession (number : Nat) (f : DiscoverySession → DiscoverySession) : Action κ Unit :=
  modify fun w => { w with sessions := w.sessions.modify number f }

/-- An announcement reaches a session. -/
def announceTo (number : Nat) (adapter : String) (path props : Value) : Action κ Unit := do
  let w ← get
  let s ← Procedure.ofExcept ((w.session number).hear adapter path props)
  changeSession number fun _ => s

/-! ## Lemmas -/

theorem await_apply (bound : Seconds) (w : World κ) :
    await bound w = match w.clock.waitRefusal? bound with
      | some f => (.error f, w)
      | none => (.ok (), w.seeing (.waited bound)) := by
  unfold await
  rw [Procedure.bind_ok (Procedure.get_apply w)]
  cases w.clock.waitRefusal? bound <;> rfl

theorem pause_apply (duration : Seconds) (w : World κ) :
    pause duration w = match w.clock.pauseRefusal? duration with
      | some f => (.error f, w)
      | none => (.ok (), w.seeing (.slept duration)) := by
  unfold pause
  rw [Procedure.bind_ok (Procedure.get_apply w)]
  cases w.clock.pauseRefusal? duration <;> rfl

end World

end BluetoothControl
