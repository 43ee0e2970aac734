import BluetoothControl.Proofs.Client.Keeps
import BluetoothControl.Proofs.Client.Telling
import BluetoothControl.Proofs.Client.Wiring

/-!
# What every run keeps

`Sound` holds of a client that has done nothing yet, and every move keeps it (`keeps_act`), however
connecting, messages and closing turn out; so it holds after every run (`sound_run`).
-/

namespace BluetoothControl.Client

open Procedure Handling

/-- On a loop that runs, the client and its bus agree, with the handler pending on the connections
`ts`. -/
structure Sound (k : Nat) (ts : List Nat) (w : World Client) : Prop where
  running : w.Running
  /-- Handles below `k` are not given out any more. -/
  floor : k ≤ w.service.nextHandle
  wired : Wired ts w.service w.log

section
variable {k : Nat} {ts : List Nat} {w : World Client} {c : Client} {es : List Event} {n : Nat}

theorem Sound.after (h : Sound k ts w) (hc : c.nextHandle = w.service.nextHandle)
    (hw : Wired ts c (w.log ++ es)) : Sound k ts (w.after c es) :=
  ⟨h.running, Nat.le_trans h.floor (Nat.le_of_eq hc.symm), hw⟩

/-- To observe what is about neither the handler nor connections changes nothing. -/
theorem Sound.observed (h : Sound k ts w) (hh : handlings es = []) (hs : strays es = []) :
    Sound k ts (w.after w.service es) := h.after rfl (h.wired.observed hh hs)

theorem openBus?_eq_none_of_buses {l : Link} (ho : w.service.openBus? = none)
    (hl : l.buses = w.service.link.buses) : (w.service.withLink l).openBus? = none := by
  show Option.filter l.isConnected w.service.bus = none
  rw [funext fun m => Link.isConnected_of_buses hl m]
  exact ho

/-! ## The connection and the handler -/

theorem sound_exchange (m : Message) (n : Nat) (context : String) :
    Keeps (Sound k ts) (exchange n m context) := by
  intro w h
  rw [exchange_apply]
  exact h.after rfl (h.wired.nextReply n _ rfl rfl)

/-- While no connection is in use, a new one may take the place of the one held. -/
theorem sound_reconnect (h : Sound k ts w) (ho : w.service.openBus? = none) :
    Sound k ts (reconnect w).2 := by
  have hl := Link.buses_nextConnect w.service.link
  have hr := reconnected w
  generalize reconnect w = x at hr
  cases hr with
  | opens number =>
    subst number
    exact h.after rfl (h.wired.connected ho)
  | lapses number =>
    subst number
    have hv := (h.wired.connected ho).drop (w.service.link.buses.length + 1)
      [.lapsed (w.service.link.buses.length + 1)] rfl rfl
    rw [List.append_assoc] at hv
    exact h.after rfl hv
  | strays number =>
    subst number
    exact h.after rfl h.wired.strayed
  | hangs => exact h.after rfl (h.wired.of_buses hl rfl rfl)
  | cancelled => exact h.after rfl (h.wired.of_buses hl rfl rfl)
  | unreachable =>
    exact h.after rfl
      ((h.wired.of_buses hl rfl rfl).release (openBus?_eq_none_of_buses ho hl))

/-- Each step of putting the handler on a connection leaves the client in order. -/
theorem carries_sound : Carries (Sound k) where
  opened h t ht := (h.wired.pending.2 t ht).1
  request n h := sound_exchange _ n _ _ h
  reconnect := sound_reconnect
  ask h hb hr hn := ⟨h.running, h.floor, h.wired.asking hb hr hn⟩
  settle c h hg := by
    have hw := h.wired.settled c hg
    cases c with
    | granted => exact ⟨h.running, h.floor, hw⟩
    | denied => exact ⟨h.running, h.floor, hw⟩
    | interrupted => exact ⟨h.running, h.floor, hw⟩

theorem sound_obtainBus : Keeps (Sound k []) obtainBus := fun _ h =>
  (carries_sound.obtainBus h).1

theorem sound_call (m : Message) (context : String) : Keeps (Sound k []) (call m context) :=
  keeps_bind sound_obtainBus fun n => sound_exchange m n context

theorem sound_uninstallHandler : Keeps (Sound k []) uninstallHandler := by
  intro w h
  cases hr : w.service.signalBus with
  | none =>
    rw [uninstallHandler_none hr]
    exact h
  | some n =>
    have hw := h.wired.withdrawn hr
    cases hc : w.service.link.isConnected n with
    | false =>
      rw [uninstallHandler_down hr hc]
      exact h.after rfl hw
    | true =>
      rw [uninstallHandler_held hr
        (openBus?_eq_some.mpr ⟨h.wired.held_of_recorded hr hc, hc⟩)]
      have hv := hw.nextReply n [.sent n .removeMatch,
        .resolved n .removeMatch (w.service.link.nextReply n).1] rfl rfl
      rw [List.append_assoc] at hv
      exact h.after rfl hv

/-! ## Subscriptions -/

theorem Sound.entered (h : Sound k [] w) (s : Subscriber) :
    Sound k [] (w.after (w.service.entered s) []) := by
  refine ⟨h.running, Nat.le_succ_of_le h.floor, ?_⟩
  rw [World.after_log, List.append_nil]
  exact h.wired.enter s

theorem Sound.retain (h : Sound k [] w) {subscriptions : List (Nat × Subscriber)}
    (hsub : subscriptions.Sublist w.service.subscriptions) :
    Sound k [] (w.after { w.service with subscriptions } []) := by
  refine h.after rfl ?_
  rw [List.append_nil]
  exact h.wired.retain hsub

theorem sound_subscribeTask (s : Subscriber) : Keeps (Sound k []) (subscribeTask s) := by
  intro w h
  have hv := carries_sound.attach (h.entered s)
  rw [subscribeTask_apply]
  rcases hr : attach (w.after (w.service.entered s) []) with ⟨r, v⟩
  rw [hr] at hv
  cases r with
  | ok u => exact hv
  | error e =>
    dsimp only
    split
    · exact hv.retain List.filter_sublist
    · exact hv

theorem sound_unsubscribeTask (handle : Value) : Keeps (Sound k []) (unsubscribeTask handle) :=
  keeps_unsubscribeTask (fun _ _ h => h.retain List.filter_sublist) sound_uninstallHandler handle

theorem sound_letGo : Keeps (Sound k []) letGo := by
  intro w h
  cases hb : w.service.bus with
  | none =>
    rw [letGo_none hb]
    exact h
  | some n =>
    rw [letGo_held hb]
    have hv := h.wired.drop n [.disconnected n] rfl rfl
    have ho : (w.service.withLink (w.service.link.drop n)).openBus? = none := by
      show Option.filter (w.service.link.drop n).isConnected w.service.bus = none
      rw [hb]
      simp [Link.isConnected_drop]
    refine h.after rfl ?_
    unfold parted
    split
    · exact hv.release ho
    · exact hv

theorem sound_closeTask : Keeps (Sound k []) closeTask :=
  keeps_closeTask (fun _ _ h => h.retain List.filter_sublist) sound_uninstallHandler sound_letGo

/-! ## Calls from other threads -/

/-- Calls of the service leave the client in order. -/
theorem upholds_sound : Upholds (Sound k []) where
  called _ _ h := h.observed rfl rfl
  pace _ _ h := h.after rfl (h.wired.of_buses rfl rfl rfl)
  call m context _ := sound_call m context

/-- On a loop that runs a task is carried out, in the time that its bound leaves. -/
theorem runTask_apply {α : Type} (h : w.Running) (bound : Seconds) (task : Task α) :
    runTask bound task w =
      let x := paced bound task (w.after w.service [.called (some bound)])
      (EventLoop.answer w.loop.name (some bound) false (ended? x.1), x.2) := by
  obtain ⟨name, hw⟩ := h
  rw [runTask_eq, hw]
  rfl

/-- On a loop that runs closing is a task. -/
theorem close_running (h : w.Running) : close w = perform closeTask w := by
  obtain ⟨name, hl⟩ := h
  have hr : w.loop.isRunning = true := by
    rw [hl]
    rfl
  show (if w.loop.isRunning = true then perform closeTask else _) w = _
  rw [if_pos hr]

theorem sound_close : Keeps (Sound k []) close := by
  intro w h
  rw [close_running h.running]
  exact keeps_perform upholds_sound.called upholds_sound.pace sound_closeTask w h

/-! ## Moves -/

theorem handlings_of_silent (h : Silent es) : handlings es = [] := by
  refine List.filterMap_eq_nil_iff.mpr fun e he => ?_
  have ht := h e he
  cases e <;> first | rfl | cases ht

theorem strays_of_silent (h : Silent es) : strays es = [] := by
  refine List.filterMap_eq_nil_iff.mpr fun e he => ?_
  have ht := h e he
  cases e <;> first | rfl | cases ht

/-- Every move keeps the client in order. -/
theorem keeps_act (m : Move) : Keeps (Sound k []) m.act := by
  cases m with
  | command c =>
    exact keeps_execute upholds_sound sound_subscribeTask sound_unsubscribeTask sound_close c
  | signal s =>
    refine keeps_bind (fun w h => ?_) fun _ => keeps_pure _
    obtain ⟨hc, hl, es, hlog, hs⟩ := still_signal h.running s
    refine ⟨?_, ?_, ?_⟩
    · rw [World.Running, hl]
      exact h.running
    · rw [hc]
      exact h.floor
    · rw [hc, hlog]
      exact h.wired.observed (handlings_of_silent hs) (strays_of_silent hs)
  | drop n =>
    refine keeps_bind (fun w h => ?_) fun _ => keeps_pure _
    rw [changeLink_apply]
    exact h.after rfl (h.wired.drop n _ rfl rfl)
  | outlook connects replies disconnectFailure =>
    refine keeps_bind (fun w h => ?_) fun _ => keeps_pure _
    rw [changeLink_apply]
    exact h.after rfl (h.wired.of_buses rfl rfl rfl)

end

/-! ## Runs -/

theorem run_cons (m : Move) (rest : List Move) (w : World Client) :
    run (m :: rest) w =
      (⟨m, (m.act w).1⟩ :: (run rest (m.act w).2).1, (run rest (m.act w).2).2) := rfl

theorem keeps_run {k : Nat} {w : World Client} (h : Sound k [] w) (moves : List Move) :
    Sound k [] (run moves w).2 := by
  induction moves generalizing w with
  | nil => exact h
  | cons m rest ih => exact ih (keeps_act m w h)

/-- A client that has done nothing yet is in order. -/
theorem sound_fresh (loop : String) (callTimeout : Seconds) :
    Sound 0 [] (fresh loop callTimeout) where
  running := ⟨loop, rfl⟩
  floor := Nat.zero_le _
  wired := {
    newest := fun n h => by cases h
    single := fun n h => by cases n <;> cases h
    bare := fun n h => by cases h
    pending := ⟨List.nodup_nil, fun n h => by cases h⟩
    recorded := rfl
    placed := fun n h => by cases h
    ledger := fun n => by cases n <;> rfl
    fresh := fun e h => by cases h
    distinct := List.nodup_nil }

/-- After every run the client is in order. -/
theorem sound_run (loop : String) (callTimeout : Seconds) (moves : List Move) :
    Sound 0 [] (run moves (fresh loop callTimeout)).2 :=
  keeps_run (sound_fresh loop callTimeout) moves

/-- The client holds the newest connection and no other is up; the recorded one, if it is up, is the
one held, carries the handler, and accepted the request; nothing is recorded while nobody is
subscribed; and every live handle is below the next. -/
structure Ordered (w : World Client) : Prop where
  newest : ∀ n, w.service.bus = some n → n = w.service.link.buses.length
  single : ∀ n, w.service.link.isConnected n = true → w.service.bus = some n
  recorded : ∀ n, w.service.signalBus = some n → w.service.link.isConnected n = true →
    w.service.bus = some n ∧ 0 < w.service.link.handlersOn n ∧ Accepted w.log n
  idle : w.service.subscriptions = [] → w.service.signalBus = none
  fresh : ∀ e ∈ w.service.subscriptions, e.1 < w.service.nextHandle

end BluetoothControl.Client
