import BluetoothControl.Proofs.Client.Sound

/-!
# What closing leaves behind

Closing drops the subscriptions, takes the handler off and gives the connection held up.  On a loop
that runs the withdrawal of notifications is waited for in between, and what interrupts it keeps
the connection; once the loop has ended the record of the handler's connection stays.
`released_iff` says when nothing is left behind.
-/

namespace BluetoothControl.Client

open Procedure

/-- A client that closed from `w` on left nothing behind in `v`: nobody is subscribed, no connection
is held or recorded, and if the loop ran the connection held before was closed. -/
structure Released (w v : World Client) : Prop where
  subscriptions : v.service.subscriptions = []
  bus : v.service.bus = none
  signalBus : v.service.signalBus = none
  closed : w.loop.isRunning = true → ∀ n, w.service.bus = some n →
    (∃ es, v.log = w.log ++ es ∧ .disconnected n ∈ es) ∧ v.service.link.isConnected n = false

/-- Whether nothing interrupts the withdrawal of notifications, if there is one: it is neither
cancelled nor left unanswered, nor answered too late or by an error that cannot be read. -/
def withdraws (c : Client) : Bool :=
  match c.signalBus with
  | some n => !c.link.isConnected n || !(c.link.nextReply n).1.isInterrupted
  | none => true

/-- Whether nothing interrupts closing: the withdrawal of notifications is not, and closing the
connection held, if there is one, is not cancelled. -/
def releases (c : Client) : Bool := c.withdraws && (c.bus.isNone || c.partsCalmly)

/-- The client with the bus as a call under its own bound finds it: without time for it if that
bound is up at once. -/
def atCall (c : Client) : Client :=
  if c.callTimeout.patience matches .looks then c.withLink (c.link.pace true) else c

section
variable {w v : World Client}

/-- What taking the handler off comes to, for a client that holds the recorded connection if that is
up. -/
structure Detached (w : World Client) (r : Except Halt Unit) (v : World Client) : Prop where
  answers : r.isOk = w.service.withdraws
  bus : v.service.bus = w.service.bus
  signalBus : v.service.signalBus = none
  subscriptions : v.service.subscriptions = w.service.subscriptions
  partsCalmly : v.service.partsCalmly = w.service.partsCalmly
  log : ∃ es, v.log = w.log ++ es

theorem detached (h : ∀ n, w.service.signalBus = some n → w.service.link.isConnected n = true →
      w.service.bus = some n) :
    Detached w (uninstallHandler w).1 (uninstallHandler w).2 := by
  cases hr : w.service.signalBus with
  | none =>
    rw [uninstallHandler_none hr]
    refine ⟨?_, rfl, hr, rfl, rfl, ⟨[], (List.append_nil _).symm⟩⟩
    rw [withdraws, hr]
    rfl
  | some n =>
    have hw : w.service.withdraws =
        (!w.service.link.isConnected n || !(w.service.link.nextReply n).1.isInterrupted) := by
      rw [withdraws, hr]
    cases hc : w.service.link.isConnected n with
    | false =>
      rw [uninstallHandler_down hr hc]
      refine ⟨?_, rfl, rfl, rfl, ?_, ⟨_, rfl⟩⟩
      · rw [hw, hc]
        rfl
      · exact congrArg (Option.all _) (Link.disconnectFailure_change ..)
    | true =>
      rw [uninstallHandler_held hr (openBus?_eq_some.mpr ⟨h n hr hc, hc⟩)]
      refine ⟨?_, rfl, rfl, rfl, ?_, ⟨_, rfl⟩⟩
      · rw [hw, hc]
        dsimp only
        cases ha : (w.service.link.nextReply n).1.isInterrupted with
        | false => rfl
        | true =>
          cases hd : (w.service.link.nextReply n).1.isAccepted with
          | true =>
            rw [isInterrupted_of_isAccepted hd] at ha
            cases ha
          | false =>
            obtain ⟨e, hv, -⟩ := verdict_of_not_isAccepted removeMatchContext hd
            rw [if_pos rfl, hv]
            rfl
      · exact congrArg (Option.all _)
          ((Link.disconnectFailure_nextReply ..).trans (Link.disconnectFailure_change ..))

/-- A connection that was held and closed is up no more, and is held no longer unless closing it was
cancelled. -/
theorem released_letGo (hl : ∃ es, v.log = w.log ++ es) (hb : v.service.bus = w.service.bus)
    (hs : v.service.subscriptions = []) (hr : v.service.signalBus = none) :
    Released w (letGo v).2 ↔ (v.service.bus.isNone || v.service.partsCalmly) = true := by
  cases hn : v.service.bus with
  | none =>
    rw [letGo_none hn]
    exact iff_of_true ⟨hs, hn, hr, fun _ n h => by rw [← hb, hn] at h; cases h⟩ rfl
  | some n =>
    obtain ⟨es, hl⟩ := hl
    have hbus : (v.service.parted n).bus = if v.service.partsCalmly then none else some n := by
      rw [← hn]
      rfl
    rw [letGo_held hn]
    cases hp : v.service.partsCalmly with
    | false =>
      rw [hp] at hbus
      refine iff_of_false (fun h => ?_) Bool.false_ne_true
      cases hbus.symm.trans h.bus
    | true =>
      rw [hp] at hbus
      refine iff_of_true ⟨hs, hbus, hr, fun _ m hm => ?_⟩ rfl
      rw [← hb, hn] at hm
      cases hm
      refine ⟨⟨es ++ [.disconnected n], ?_, by simp⟩, ?_⟩
      · rw [World.after_log, hl, List.append_assoc]
      · show (v.service.link.drop n).isConnected n = false
        simp [Link.isConnected_drop]

/-- A withdrawal that is interrupted goes to the connection held, which is kept then. -/
theorem held_of_withdraws_eq_false (hu : w.service.withdraws = false)
    (h : ∀ n, w.service.signalBus = some n → w.service.link.isConnected n = true →
      w.service.bus = some n) :
    w.service.bus ≠ none := by
  unfold withdraws at hu
  split at hu
  · next n hr =>
    rw [Bool.or_eq_false_iff, Bool.not_eq_false'] at hu
    rw [h n hr hu.1]
    exact Option.some_ne_none n
  · cases hu

/-- With nobody subscribed any more, the rest of closing leaves nothing behind unless it is
interrupted. -/
theorem released_rest {u : World Client}
    (h : ∀ n, u.service.signalBus = some n → u.service.link.isConnected n = true →
      u.service.bus = some n) (hl : ∃ es, u.log = w.log ++ es) (hb : u.service.bus = w.service.bus)
    (hs : u.service.subscriptions = []) :
    Released w ((uninstallHandler >>= fun _ => letGo) u).2 ↔ u.service.releases = true := by
  have hd := detached h
  unfold releases
  rw [bind_apply]
  rcases ho : uninstallHandler u with ⟨r, v⟩
  rw [ho] at hd
  obtain ⟨ha, hbus, hr, hsub, hp, ⟨es, hlog⟩⟩ := hd
  rw [← ha, ← hbus, ← hp]
  cases r with
  | ok _ =>
    obtain ⟨fs, hl⟩ := hl
    refine (released_letGo ⟨fs ++ es, ?_⟩ (hbus.trans hb) (hsub.trans hs) hr).trans ?_
    · rw [hlog, hl, List.append_assoc]
    · rw [show (Except.ok _ : Except Halt Unit).isOk = true from rfl, Bool.true_and]
  | error e =>
    refine iff_of_false (fun hv => ?_) Bool.false_ne_true
    exact held_of_withdraws_eq_false ha.symm h (hbus.symm.trans hv.bus)

/-- What closing leaves behind in the time that it is given. -/
theorem released_closeTask {u : World Client}
    (h : ∀ n, u.service.signalBus = some n → u.service.link.isConnected n = true →
      u.service.bus = some n) (hl : ∃ es, u.log = w.log ++ es)
    (hb : u.service.bus = w.service.bus) :
    Released w (closeTask u).2 ↔ u.service.releases = true := by
  rw [closeTask_eq, bind_ok (change_apply _ _)]
  obtain ⟨es, hl⟩ := hl
  refine released_rest (u := u.after { u.service with subscriptions := [] } []) h ⟨es, ?_⟩ hb rfl
  rw [World.after_log, List.append_nil, hl]

/-- Whether anyone has time to wait for the bus makes no difference to what was left behind. -/
theorem released_pace (hasty : Bool) :
    Released w (v.after (v.service.withLink (v.service.link.pace hasty)) []) ↔ Released w v := by
  have hlog : (v.after (v.service.withLink (v.service.link.pace hasty)) []).log = v.log :=
    List.append_nil _
  constructor
  · intro h
    refine ⟨h.subscriptions, h.bus, h.signalBus, fun hr n hn => ?_⟩
    have hc := h.closed hr n hn
    rw [hlog] at hc
    exact hc
  · intro h
    refine ⟨h.subscriptions, h.bus, h.signalBus, fun hr n hn => ?_⟩
    rw [hlog]
    exact h.closed hr n hn

end

end BluetoothControl.Client
