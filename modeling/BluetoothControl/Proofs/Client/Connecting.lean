import BluetoothControl.Proofs.Client.Effect

/-!
# Obtaining a connection

Before a message is sent the client takes the connection it holds, or opens a new one and has
notifications on it if anyone is subscribed.  `Obtained` lists what can come of that where no
connection is down as soon as it is opened for subscribers, and `obtained` shows that nothing else
can.
-/

namespace BluetoothControl.Client

open Procedure

/-- No connection is about to be opened for subscribers and be down at once. -/
def Steady (c : Client) : Prop :=
  c.openBus? = none → c.subscriptions ≠ [] → c.link.nextConnect.1 ≠ .opensDown

/-- Where no outcome is settled, connections stay up. -/
theorem steady_of_connects {c : Client} (h : c.link.connects = []) : Steady c := by
  intro _ _ hc
  have hl := Link.length_connects_nextConnect hc
  rw [h] at hl
  cases hl

/-- What can come of an attempt to have a connection to use. -/
inductive Obtained (w : World Client) : Except Halt Nat × World Client → Prop
  /-- The connection held is up. -/
  | held {n : Nat} (up : w.service.openBus? = some n) : Obtained w (.ok n, w)
  /-- The attempt to connect never ends. -/
  | hangs (down : w.service.openBus? = none) :
      Obtained w (.error .unanswered, w.after (w.service.withLink w.service.link.nextConnect.2) [])
  /-- The attempt to connect ends as it is given up. -/
  | strays {n : Nat} (down : w.service.openBus? = none) :
      Obtained w (.error .unanswered, w.after w.service.strayed [.strayed n])
  /-- The attempt to connect is cancelled. -/
  | cancelled {f : Failure} (down : w.service.openBus? = none) (kind : f.kind = .cancelled) :
      Obtained w
        (.error (.failed f),
          w.after (w.service.withLink w.service.link.nextConnect.2) [.connectFailed])
  /-- The attempt to connect fails. -/
  | unreachable (cause : String) (down : w.service.openBus? = none) :
      Obtained w
        (.error (.failed (.busUnreachable cause)),
          w.after { w.service.withLink w.service.link.nextConnect.2 with bus := none }
            [.connectFailed])
  /-- A new connection is taken as it is. -/
  | opened {n : Nat} (down : w.service.openBus? = none)
      (number : n = w.service.link.buses.length + 1) :
      Obtained w (.ok n, w.after w.service.connected [.connected n])
  /-- A new connection is taken, though it is down. -/
  | lapsed {n : Nat} (down : w.service.openBus? = none)
      (number : n = w.service.link.buses.length + 1) :
      Obtained w (.ok n, w.after w.service.lapsed [.connected n, .lapsed n])
  /-- Notifications are asked for on a new connection. -/
  | asked {n : Nat} (down : w.service.openBus? = none)
      (number : n = w.service.link.buses.length + 1) :
      Obtained w
        ((verdict addMatchContext (w.service.connected.link.nextReply n).1).map fun _ => n,
          w.after (w.service.connected.requested n)
            (.connected n :: requestEvents n (w.service.connected.link.nextReply n).1))

section
variable {w : World Client}

/-- Without a connection that is up, a new one is taken up. -/
theorem obtainBus_down (h : w.service.openBus? = none) :
    obtainBus w = (reconnect >>= takeUp (call .addMatch addMatchContext)) w := by
  conv_lhs => rw [obtainBus_eq]
  rw [bind_ok (current_apply w), h]

/-- A connection that the handler is taken to be on already is taken as it is, though somebody is
subscribed. -/
theorem takeUp_recorded {ask : Task (List Value)} {n : Nat} (hs : w.service.subscriptions ≠ [])
    (hr : w.service.signalBus = some n) (hb : w.service.bus = some n) :
    takeUp ask n w = (.ok n, w) := by
  rw [takeUp_busy hs, installAsking_recorded hr]
  show (Except.ok (w.service.bus.getD n), w) = _
  rw [hb]
  rfl

/-- On a connection that is up notifications are asked for. -/
theorem takeUp_asked {n : Nat} (hs : w.service.subscriptions ≠ [])
    (ho : w.service.openBus? = some n) (hr : w.service.signalBus ≠ some n) :
    takeUp (call .addMatch addMatchContext) n w =
      ((verdict addMatchContext (w.service.link.nextReply n).1).map fun _ => n,
        w.after (w.service.requested n) (requestEvents n (w.service.link.nextReply n).1)) := by
  have hi : installAsking (call .addMatch addMatchContext) n w = _ := installHandler_request ho hr
  have hb : (w.service.requested n).bus = some n := by
    rw [requested_bus]
    exact (Option.filter_eq_some_iff.mp ho).1
  rw [takeUp_busy hs, hi]
  cases verdict addMatchContext (w.service.link.nextReply n).1 with
  | error e => rfl
  | ok body =>
    show (Except.ok ((w.service.requested n).bus.getD n), _) = _
    rw [hb]
    rfl

/-- To have a connection to use goes one of eight ways. -/
theorem obtained (h : Steady w.service) : Obtained w (obtainBus w) := by
  cases ho : w.service.openBus? with
  | some n =>
    rw [obtainBus_held ho]
    exact .held ho
  | none =>
    rw [obtainBus_down ho, bind_apply]
    have hr := reconnected w
    generalize reconnect w = x at hr
    cases hr with
    | hangs => exact .hangs ho
    | strays => exact .strays ho
    | cancelled outcome kind => exact .cancelled ho kind
    | unreachable => exact .unreachable _ ho
    | @lapses n number outcome =>
      by_cases hs : w.service.subscriptions = []
      · have ht : takeUp (call .addMatch addMatchContext) n
            (w.after w.service.lapsed [.connected n, .lapsed n]) = (.ok n, _) := takeUp_idle hs
        show Obtained w (takeUp (call .addMatch addMatchContext) n _)
        rw [ht]
        exact .lapsed ho number
      · exact absurd outcome (h ho hs)
    | @opens n number outcome =>
      generalize hv : w.after w.service.connected [.connected n] = v
      have hsubs : v.service.subscriptions = w.service.subscriptions := by
        rw [← hv]
        rfl
      have hopen : v.service.openBus? = some n := by
        rw [← hv, number]
        exact openBus?_connected _
      show Obtained w (takeUp (call .addMatch addMatchContext) n v)
      by_cases hs : v.service.subscriptions = []
      · rw [takeUp_idle hs, ← hv]
        exact .opened ho number
      · by_cases hr : v.service.signalBus = some n
        · rw [takeUp_recorded hs hr (Option.filter_eq_some_iff.mp hopen).1, ← hv]
          exact .opened ho number
        · rw [takeUp_asked hs hopen hr, ← hv, World.after_after]
          exact .asked ho number

namespace Obtained

variable {x : Except Halt Nat × World Client}

/-- Nobody is subscribed or dismissed on the way. -/
theorem subscriptions (h : Obtained w x) :
    x.2.service.subscriptions = w.service.subscriptions := by
  cases h with
  | asked => exact requested_subscriptions ..
  | _ => rfl

end Obtained

end

end BluetoothControl.Client
