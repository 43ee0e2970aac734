import BluetoothControl.Proofs.Client.Contract
import BluetoothControl.Proofs.Controller.Keeps

/-!
# Closing a controller

Closing goes through all its stages whatever becomes of each (`close_apply`).  Afterwards the
controller is closed and its loop has ended, and so it stays: nothing that happens later changes
that, and closing again does nothing.
-/

namespace BluetoothControl

open Procedure

variable {κ α : Type}

/-- A procedure that does not end in a cancellation. -/
abbrev Uncancelled (p : Action κ α) : Prop := FailsOnly (fun f => f.kind.isOrdinary = true) p

/-- What closing relies on in a service: what it is asked for fails in ordinary ways only, and the
controller stays closed meanwhile. -/
structure Service.Civil (s : Service κ) : Prop where
  getDiscovering : ∀ path, Uncancelled (s.getDiscovering path)
  stopDiscovery : ∀ path, Uncancelled (s.stopDiscovery path)
  close : Uncancelled s.close
  minds : s.Minds fun w => w.closed = true

/-! ## The loop -/

namespace EventLoop

theorem uncancelled_stop (bound : Seconds) :
    Uncancelled (World.onLoop (stop bound) : Action κ Unit) := by
  intro w f h
  change (stop bound w.loop).1 = .error f at h
  cases hc : w.loop.current with
  | none =>
    rw [stop_none hc] at h
    cases h
  | some t =>
    rw [stop_some hc] at h
    split at h
    · cases h
      rcases Failure.kind_telling bound (.threadStuck w.loop.name bound) with hk | hk | hk <;>
        rw [hk] <;> rfl
    · cases h

end EventLoop

/-! ## The stages -/

namespace Controller

variable {c : Controller κ}

/-- The world after all stages of closing, each from where the one before left it. -/
def dismantled (c : Controller κ) (w : World κ) : World κ :=
  let w := { w with closed := true, wakes := w.wakes + 1 }
  let w := (c.stopDiscovery w).2
  let w := if c.ownsService then (c.service.close w).2 else w
  (World.onLoop (EventLoop.stop c.config.joinTimeout) w).2

theorem uncancelled_stopDiscovery (hc : c.service.Civil) : Uncancelled c.stopDiscovery := by
  refine failsOnly_bind (hc.getDiscovering _) fun b => ?_
  split
  · exact hc.stopDiscovery _
  · exact failsOnly_pure ()

/-- Closing for the first time goes through all stages and answers. -/
theorem close_apply (hc : c.service.Civil) {w : World κ} (hw : w.closed = false) :
    c.close w = (.ok (), c.dismantled w) := by
  have hstop := ignoring_failsOnly (uncancelled_stopDiscovery hc)
    { w with closed := true, wakes := w.wakes + 1 }
  have hend := ignoring_failsOnly (σ := World κ) (EventLoop.uncancelled_stop c.config.joinTimeout)
  unfold close dismantled
  rw [bind_ok (get_apply w), hw]
  dsimp only
  rw [if_neg Bool.false_ne_true]
  change (ignoring (·.kind.isOrdinary) c.stopDiscovery >>= _)
    { w with closed := true, wakes := w.wakes + 1 } = _
  rw [bind_ok hstop]
  cases c.ownsService with
  | false => exact hend _
  | true =>
    simp only [if_true]
    rw [bind_ok (ignoring_failsOnly hc.close _)]
    exact hend _

/-- A closed controller is left alone. -/
theorem close_closed {w : World κ} (hw : w.closed = true) : c.close w = (.ok (), w) := by
  unfold close
  rw [bind_ok (get_apply w), hw]
  rfl

end Controller

/-! ## The client -/

namespace Client

/-- A task that fails with no withdrawal, which would reach the caller as a cancellation. -/
abbrev Unwithdrawn (task : Task α) : Prop := FailsOnly (fun e => e.isA .withdrawn = false) task

theorem isA_withdrawn_of_expected {e : Halt} (h : e.Expected ∨ e.Misread) :
    e.isA .withdrawn = false := by
  cases e with
  | unanswered => rfl
  | failed f =>
    change (f.kind = .cancelled ∨ f.kind.isA .service = true) ∨
      [Kind.outOfRange, .missingOperation, .missingKey, .wrongType].contains f.kind = true at h
    show f.kind.isA .withdrawn = false
    revert h
    cases f.kind <;> decide

theorem unwithdrawn_of_candid {task : Task α} (h : Candid task) : Unwithdrawn task := by
  intro w e he
  obtain ⟨es, -, hr⟩ := h w trivial
  rw [he] at hr
  exact isA_withdrawn_of_expected (hr.imp And.left And.left)

theorem unwithdrawn_callMethod {path interface member signature : String} {args : List Value} :
    Unwithdrawn (callMethod path interface member signature args) := by
  unfold callMethod Message.call
  split
  · next hm =>
    split at hm
    · cases hm
    · cases hm
      exact failsOnly_throw rfl
  · next m hm =>
    refine failsOnly_bind (unwithdrawn_of_candid candid_obtainBus) fun n w e he => ?_
    rw [exchange_apply] at he
    exact isA_withdrawn_of_expected ((verdict_error m he).imp And.left And.left)

theorem unwithdrawn_getFlag {path interface name : String} :
    Unwithdrawn (getFlag path interface name) := by
  refine failsOnly_bind (failsOnly_bind unwithdrawn_callMethod fun body => ?_) fun v =>
    failsOnly_pure _
  refine failsOnly_bind ?_ fun v => failsOnly_pure _
  cases body with
  | nil => exact failsOnly_throw rfl
  | cons v rest => exact failsOnly_pure v

/-- No other failure reaches the caller as a cancellation. -/
theorem isOrdinary_reported {loop : String} {bound : Seconds} {e : Halt}
    (h : e.isA .withdrawn = false) : (reported loop bound e).kind.isOrdinary = true := by
  cases e with
  | unanswered => exact EventLoop.isOrdinary_untold loop _
  | failed f => exact EventLoop.isOrdinary_settleFailure h loop _

theorem uncancelled_runTask (bound : Seconds) {task : Task α} (ht : Unwithdrawn task) :
    Uncancelled (runTask bound task) := by
  intro w f h
  rw [runTask_eq] at h
  cases hc : w.loop.current with
  | none =>
    rw [hc] at h
    cases h
    rfl
  | some thread =>
    rw [hc] at h
    dsimp only at h
    split at h
    · cases h
      exact EventLoop.isOrdinary_untold ..
    · rw [answer_task] at h
      cases hp : bound.patience with
      | waits =>
        rw [hp, if_pos (show Patience.waits.lasts = true from rfl), paced_waits hp] at h
        cases hr : (task (w.after w.service [.called (some bound)])).1 with
        | ok a =>
          rw [hr] at h
          cases h
        | error e =>
          rw [hr] at h
          cases h
          exact isOrdinary_reported (ht _ e hr)
      | looks =>
        rw [hp] at h
        cases h
        exact EventLoop.isOrdinary_untold ..
      | refuses g =>
        rw [hp] at h
        cases h
        exact EventLoop.isOrdinary_untold ..

theorem uncancelled_perform {task : Task α} (ht : Unwithdrawn task) : Uncancelled (perform task) :=
  fun w => uncancelled_runTask w.service.callTimeout ht w

theorem uncancelled_close : Uncancelled close := by
  intro w f h
  change ((if w.loop.isRunning = true then perform closeTask else _) w).1 = .error f at h
  split at h
  · exact uncancelled_perform (unwithdrawn_of_candid candid_closeTask) w f h
  · cases h

end Client

/-! ## For good -/

section
variable {R : Bool → Bool → Prop}

/-- A relation between whether the controller is closed and whether its loop runs. -/
def Shows (R : Bool → Bool → Prop) (w : World κ) : Prop := R w.closed w.loop.isRunning

/-- The controller is closed and its loop has ended. -/
abbrev Ended : World κ → Prop := Shows fun closed running => closed = true ∧ running = false

/-- If the controller is closed its loop has ended. -/
abbrev Tidy : World κ → Prop := Shows fun closed running => closed = true → running = false

theorem shows_of_within {A : Subscriber → Prop} {w v : World Client} (h : Client.Within A w v)
    (hw : Shows R w) : Shows R v := by
  obtain ⟨c, es, rfl, -⟩ := h
  exact hw

theorem minds_shows : Client.service.Minds (Shows R) :=
  Client.minds_service fun _ _ h => shows_of_within h

theorem steady_shows (adapter : String) : Steady adapter (Shows R : World κ → Prop) where
  observe _ _ _ h := h
  wakeAll _ h := h
  handOut _ _ _ _ h := h
  onHost _ _ _ _ h := h

theorem shows_signal (s : Signal) : Keeps (Shows R) (Client.signal s) := by
  refine Client.keeps_signal (fun _ _ _ h => h) (fun _ _ _ _ => ?_) (fun w h => ?_) s
  · exact keeps_bind keeps_get fun _ => keeps_bind (keeps_ofExcept _) fun _ _ h => h
  · show R w.closed (EventLoop.require w.loop).2.isRunning
    rw [EventLoop.require_loop]
    exact h

theorem calm_shows (hkill : ∀ closed, R closed true → R closed false) : Calm (Shows R) where
  changeLink _ _ h := h
  kill w h := by
    show R w.closed (EventLoop.kill w.loop).2.isRunning
    rcases EventLoop.isRunning_kill w.loop with hk | hk
    · rw [hk]
      exact h
    · rw [hk]
      cases hr : w.loop.isRunning with
      | true => exact hkill _ (hr ▸ h)
      | false => exact hr ▸ h

theorem Client.civil_service : Client.service.Civil where
  getDiscovering _ := uncancelled_perform unwithdrawn_getFlag
  stopDiscovery _ :=
    uncancelled_perform (failsOnly_bind unwithdrawn_callMethod fun _ => failsOnly_pure _)
  close := uncancelled_close
  minds := minds_shows (R := fun closed _ => closed = true)

namespace Controller

theorem ended_dismantled {c : Controller κ} (hc : c.service.Civil) (w : World κ) :
    Ended (c.dismantled w) := by
  refine ⟨?_, EventLoop.isRunning_stop _ _⟩
  show (if c.ownsService then _ else _ : World κ).closed = true
  have h := keeps_stopDiscovery hc.minds { w with closed := true, wakes := w.wakes + 1 } rfl
  cases c.ownsService with
  | false => exact h
  | true => exact hc.minds.close _ h

variable {name : String} {config : Config} {owns : Bool}

theorem shows_subscribe (s : Subscriber) : Keeps (Shows R) (Client.service.subscribe s) := by
  have hc : Keeps (Shows R) (Client.subscribe s) := fun w h =>
    shows_of_within
      (Client.within_subscribe (A := fun _ => True) trivial w (Client.within_refl w)) h
  exact keeps_map _ (keeps_bind hc fun _ => keeps_pure _)

theorem shows_enroll (timeout : Seconds) :
    Keeps (Shows R) ((onBus name config owns).enroll timeout) :=
  keeps_enroll minds_shows.reads (fun _ _ h => h) (fun _ _ _ _ _ h => h)
    (fun _ => shows_subscribe _) timeout

theorem shows_finishScan (s : Scan) :
    Keeps (Shows R) ((onBus name config owns).finishScan s) :=
  keeps_finishScan minds_shows.unchecked (fun _ _ _ h => h) s

/-- What closing keeps and the end of a loop does not break, every run keeps. -/
theorem shows_run (hkill : ∀ closed, R closed true → R closed false)
    (hclose : Keeps (Shows R) (onBus name config owns).close) {l : Life} (h : Shows R l.world)
    (ms : List Move) : Shows R ((onBus name config owns).run ms l).world :=
  keeps_run (keeps_act minds_shows.unchecked (checked_of_minds minds_shows (steady_shows _))
    (steady_shows _) (calm_shows hkill) shows_enroll shows_finishScan hclose
    fun s _ => shows_signal s) h ms

end Controller

end

namespace Controller

variable {name : String} {config : Config} {owns : Bool}

/-- However a controller on the bus comes to be closed, its loop has ended then. -/
theorem tidy_close : Keeps Tidy (onBus name config owns).close := by
  intro w h
  cases hw : w.closed with
  | true =>
    rw [close_closed hw]
    exact h
  | false =>
    rw [close_apply Client.civil_service hw]
    exact fun _ => (ended_dismantled Client.civil_service w).2

/-- A closed controller whose loop has ended is left alone. -/
theorem ended_close : Keeps Ended (onBus name config owns).close := by
  intro w h
  rw [close_closed h.1]
  exact h

/-- Closing a controller answers and goes through all stages, whatever its service does; and on the
bus, after any moves, the controller is closed and its loop has ended then, and stays so through any
further moves, after which closing does nothing. -/
theorem closes_for_good :
    (∀ (c : Controller κ) (w : World κ), c.service.Civil → w.closed = false →
      c.close w = (.ok (), c.dismantled w) ∧ Ended (c.dismantled w)) ∧
    ∀ (name : String) (config : Config) (owns : Bool) (link : Link) (callTimeout : Seconds)
      (before later : List Move),
      let c := onBus name config owns
      let l := c.run before (.first name link callTimeout)
      let v := (c.run later (l.after c.close)).world
      (c.close l.world).1 = .ok () ∧
      (c.close l.world).2 = (if l.world.closed then l.world else c.dismantled l.world) ∧
      Ended (c.close l.world).2 ∧ Ended v ∧ c.close v = (.ok (), v) := by
  refine ⟨fun c w hc hw => ⟨close_apply hc hw, ended_dismantled hc w⟩, ?_⟩
  intro name config owns link callTimeout before later c l v
  have htidy : Tidy l.world :=
    shows_run (fun _ _ _ => rfl) tidy_close (l := .first name link callTimeout)
      (fun h => absurd h Bool.false_ne_true) before
  have hclose : c.close l.world =
      (.ok (), if l.world.closed then l.world else c.dismantled l.world) := by
    cases hw : l.world.closed with
    | true => exact close_closed hw
    | false => exact close_apply Client.civil_service hw
  have hended : Ended (c.close l.world).2 := by
    rw [hclose]
    cases hw : l.world.closed with
    | true => exact ⟨hw, htidy hw⟩
    | false => exact ended_dismantled Client.civil_service l.world
  have hv : Ended v :=
    shows_run (fun _ h => ⟨h.1, rfl⟩) ended_close (l := l.after c.close) hended later
  exact ⟨congrArg Prod.fst hclose, congrArg Prod.snd hclose, hended, hv, close_closed hv.1⟩

/-- A service that answers without a body when closing asks whether discovery runs: the stages that
are left come all the same. -/
theorem closes_for_good_emptyBody :
    let c := onBus "hci0" {} true
    let w := (Life.first "hci0" { replies := [{ delivery := .answered (.returned []) }] }
      (.whole 10)).world
    c.service.Civil ∧ w.closed = false ∧ (c.stopDiscovery w).1 = .error .emptyBody ∧
      (c.close w).1 = .ok () ∧ Ended (c.close w).2 ∧
      (c.close w).2.service.link.buses = [{ connected := false }] := by
  have h := closes_for_good.1 (onBus "hci0" {} true)
    (Life.first "hci0" { replies := [{ delivery := .answered (.returned []) }] } (.whole 10)).world
    Client.civil_service rfl
  refine ⟨Client.civil_service, rfl, rfl, congrArg Prod.fst h.1, ?_, rfl⟩
  rw [h.1]
  exact h.2

end Controller

end BluetoothControl
