import BluetoothControl.Proofs.Client.Blind
import BluetoothControl.Proofs.Controller.Keeps

/-!
# A controller does not read the log

In twin worlds every operation of a controller on the bus comes to the same and leaves twins behind,
and so does every move: `twin_run` carries twins through a run.
-/

namespace BluetoothControl

open Procedure

/-- The worlds are twins, and the same scans have subscribed and wait in both. -/
structure Life.Twin (l k : Life) : Prop where
  world : BluetoothControl.Twin l.world k.world
  enrolled : l.enrolled = k.enrolled
  waiting : l.waiting = k.waiting

theorem Life.Twin.trans {l k j : Life} (h : l.Twin k) (h' : k.Twin j) : l.Twin j :=
  ⟨h.world.trans h'.world, h.enrolled.trans h'.enrolled, h.waiting.trans h'.waiting⟩

theorem Life.Twin.symm {l k : Life} (h : l.Twin k) : k.Twin l :=
  ⟨h.world.symm, h.enrolled.symm, h.waiting.symm⟩

namespace Controller

variable {name : String} {config : Config} {owns : Bool}

/-! ## Switches -/

theorem blind_isUp : Blind (onBus name config owns).isUp :=
  parallel_map _ (Client.blind_perform Client.blind_getFlag)

theorem blind_await (bound : Seconds) : Blind (World.await bound : Action Client Unit) := by
  refine blind_get (fun w => ?_) fun _ _ => rfl
  split
  · exact parallel_throw _
  · exact blind_observe _

theorem blind_pause (duration : Seconds) : Blind (World.pause duration : Action Client Unit) := by
  refine blind_get (fun w => ?_) fun _ _ => rfl
  split
  · exact parallel_throw _
  · exact blind_observe _

theorem blind_awaitPower (wanted : Bool) (n : Nat) :
    Blind ((onBus name config owns).awaitPower wanted n) := by
  induction n with
  | zero => exact parallel_throw _
  | succ n ih =>
    refine parallel_bind blind_isUp fun powered => ?_
    split
    · exact parallel_pure _
    · split
      · exact parallel_bind (blind_pause _) fun _ => ih
      · exact ih

theorem blind_switchPower (wanted : Bool) :
    Blind ((onBus name config owns).switchPower wanted) := by
  refine parallel_bind blind_isUp fun powered => ?_
  split
  · exact parallel_pure _
  · exact parallel_bind (Client.blind_perform (Client.blind_setPoweredTask _)) fun _ =>
      parallel_bind (parallel_ofExcept _) fun n => blind_awaitPower wanted n

theorem blind_startDiscovery : Blind (onBus name config owns).startDiscovery := by
  refine parallel_bind (Client.blind_perform Client.blind_getFlag) fun b => ?_
  split
  · exact parallel_pure _
  · exact parallel_bind (Client.blind_perform (Client.blind_setDiscoveryFilterTask _)) fun _ =>
      parallel_ignoring Client.blind_request

theorem blind_stopDiscovery : Blind (onBus name config owns).stopDiscovery := by
  refine parallel_bind (Client.blind_perform Client.blind_getFlag) fun b => ?_
  split
  · exact Client.blind_request
  · exact parallel_pure _

theorem blind_wakeAll : Blind (World.wakeAll : Action Client Unit) :=
  blind_modify (fun _ _ => rfl) fun _ => rfl

theorem blind_up : Blind (onBus name config owns).up :=
  parallel_bind (parallel_ignoring blind_startDiscovery) fun _ => blind_switchPower true

theorem blind_down : Blind (onBus name config owns).down :=
  parallel_bind blind_wakeAll fun _ => blind_switchPower false

theorem blind_reset : Blind (onBus name config owns).reset :=
  parallel_bind blind_down fun _ => blind_up

/-! ## Devices and the end -/

theorem blind_connect (address : String) (timeout : Seconds) :
    Blind ((onBus name config owns).connect address timeout) := by
  have hend (a : String) : Blind (do
      modify fun w => { w with connections := w.connections ++
        [{ adapter := name, address := a, path := ObjectPath.ofDevice a name, timeout }] }
      return { adapter := name, address := a, path := ObjectPath.ofDevice a name, timeout } :
        Action Client Connection) :=
    parallel_bind (blind_modify (fun _ _ => rfl) fun _ => rfl) fun _ => parallel_pure _
  refine parallel_bind (parallel_ofExcept _) fun a =>
    parallel_bind (parallel_map _ (parallel_bind (Client.blind_deviceProperties _) fun _ =>
      parallel_pure _)) fun v => ?_
  dsimp only
  split
  · exact parallel_bind (Client.blind_connect _ timeout) fun _ => hend a
  · exact hend a

theorem blind_close : Blind (onBus name config owns).close := by
  refine blind_get (fun w => ?_) fun _ _ => rfl
  have hend : Blind (ignoring (·.kind.isOrdinary)
      (World.onLoop (EventLoop.stop config.joinTimeout)) : Action Client Unit) :=
    parallel_ignoring (blind_onLoop _)
  split
  · exact parallel_pure _
  · refine parallel_bind (blind_modify (fun _ _ => rfl) fun _ => rfl) fun _ =>
      parallel_bind blind_wakeAll fun _ =>
        parallel_bind (parallel_ignoring blind_stopDiscovery) fun _ => ?_
    split
    · exact parallel_bind (parallel_ignoring Client.blind_close) fun _ => hend
    · exact hend

/-! ## Scans -/

theorem blind_noteDevice (k : Nat) (path : String) :
    Blind ((onBus name config owns).noteDevice k path) :=
  parallel_ignoring (parallel_bind (Client.blind_getAddress path) fun _ =>
    parallel_bind (parallel_ofExcept _) fun _ =>
      parallel_bind (parallel_map _ (parallel_bind (Client.blind_deviceProperties path) fun _ =>
        parallel_pure _)) fun _ => blind_changeSession k _)

theorem blind_noteObject (k : Nat) (object : Value) :
    Blind ((onBus name config owns).noteObject k object) := by
  refine parallel_bind (parallel_ofExcept _) fun own => ?_
  split
  · exact blind_noteDevice k _
  · exact parallel_pure _

theorem blind_noteKnown (k : Nat) : Blind ((onBus name config owns).noteKnown k) :=
  parallel_bind (parallel_map _ (Client.blind_perform Client.blind_listObjectsTask)) fun objects =>
    parallel_forEach (blind_noteObject k) objects

theorem blind_giveUp (subscription : Value) :
    Blind ((onBus name config owns).giveUp subscription) :=
  parallel_ignoring (Client.blind_perform (Client.blind_unsubscribeTask subscription))

theorem blind_enlist (k : Nat) (timeout : Seconds) :
    Blind ((onBus name config owns).enlist k timeout) :=
  parallel_bind (parallel_map _ (parallel_bind
    (Client.blind_perform (Client.blind_subscribeTask _)) fun _ => parallel_pure _))
    fun _ => parallel_pure _

theorem blind_enroll (timeout : Seconds) : Blind ((onBus name config owns).enroll timeout) := by
  rw [enroll_eq]
  refine parallel_bind ?_ fun k => parallel_bind (blind_noteKnown k) fun _ => blind_enlist k timeout
  rintro w v ⟨l, rfl, hl⟩
  exact ⟨rfl, l, rfl, hl⟩

theorem blind_embark (s : Scan) : Blind ((onBus name config owns).embark s) :=
  parallel_tryCatch (parallel_bind blind_startDiscovery fun _ => blind_await _) fun _ =>
    parallel_bind (blind_giveUp _) fun _ => parallel_throw _

theorem blind_strength (address : String) : Blind ((onBus name config owns).strength address) := by
  refine parallel_tryCatch (parallel_bind (Client.blind_deviceProperties _) fun _ =>
    parallel_pure _) fun f => ?_
  split
  · exact parallel_pure _
  · exact parallel_throw _

theorem blind_visible (r : Roster Value) : Blind ((onBus name config owns).visible r) := by
  induction r with
  | nil => exact parallel_pure _
  | cons e rest ih =>
    exact parallel_bind (blind_strength e.1) fun _ => parallel_bind ih fun _ => parallel_pure _

theorem blind_finishScan (s : Scan) : Blind ((onBus name config owns).finishScan s) :=
  parallel_bind (blind_giveUp _) fun _ =>
    blind_get (fun _ => parallel_bind (blind_visible _) fun _ =>
      parallel_bind (blind_changeSession _ _) fun _ => parallel_pure _) fun _ _ => rfl

theorem blind_scan (timeout : Seconds) :
    Blind ((onBus name config owns).scan timeout (pure ()) (pure ())) := by
  have hnone : Blind (discard (attempt (pure ())) : Action Client Unit) :=
    parallel_discard (parallel_attempt (parallel_pure ()))
  have hbegin : Blind ((onBus name config owns).beginScan timeout (pure ())) :=
    parallel_bind (blind_enroll timeout) fun s => parallel_bind hnone fun _ =>
      parallel_bind (blind_embark s) fun _ => parallel_pure s
  exact parallel_bind hbegin fun s => parallel_bind hnone fun _ => blind_finishScan s

/-! ## Commands and moves -/

theorem blind_withConnection {f : Connection → Action Client Answer} (hf : ∀ k, Blind (f k))
    (number : Nat) : Blind (withConnection number f) := by
  refine blind_get (fun w => ?_) fun _ _ => rfl
  split
  · exact hf _
  · exact parallel_pure _

theorem blind_execute (command : Command) : Blind ((onBus name config owns).execute command) := by
  cases command with
  | isUp => exact parallel_map _ blind_isUp
  | up => exact parallel_map _ blind_up
  | down => exact parallel_map _ blind_down
  | reset => exact parallel_map _ blind_reset
  | stopDiscovery => exact parallel_map _ blind_stopDiscovery
  | inquire => exact parallel_map _ (blind_onHost _)
  | detect address => exact parallel_map _ (blind_onHost _)
  | info => exact parallel_map _ (blind_onHost _)
  | scan timeout => exact parallel_map _ (blind_scan timeout)
  | connect address timeout => exact parallel_map _ (blind_connect address timeout)
  | isConnected number =>
    exact blind_withConnection (fun _ => parallel_map _ (parallel_map _
      (parallel_bind (Client.blind_deviceProperties _) fun _ => parallel_pure _))) _
  | disconnect number =>
    exact blind_withConnection (fun _ => parallel_map _ Client.blind_request) _
  | describe number => exact blind_withConnection (fun _ => parallel_pure _) _
  | close => exact parallel_map _ blind_close

/-- A move in twin lives leaves twins behind. -/
theorem twin_act {l k : Life} (h : l.Twin k) (m : Move) :
    ((onBus name config owns).act l m).Twin ((onBus name config owns).act k m) := by
  obtain ⟨w, enrolled, waiting⟩ := l
  obtain ⟨v, enrolled', waiting'⟩ := k
  obtain ⟨hw, rfl : enrolled = enrolled', rfl : waiting = waiting'⟩ := h
  change Twin w v at hw
  have hboth {α : Type} {p : Action Client α} (hp : Blind p) :
      ∃ r x y, p w = (r, x) ∧ p v = (r, y) ∧ Twin x y := by
    obtain ⟨hr, hx⟩ := hp w v hw
    exact ⟨(p w).1, (p w).2, (p v).2, rfl, Prod.ext hr.symm rfl, hx⟩
  have hafter {α : Type} {p : Action Client α} (hp : Blind p) :
      (Life.after ⟨w, enrolled, waiting⟩ p).Twin (Life.after ⟨v, enrolled, waiting⟩ p) :=
    ⟨(hp w v hw).2, rfl, rfl⟩
  cases m with
  | command command => exact hafter (blind_execute command)
  | enroll timeout =>
    obtain ⟨r, x, y, hx, hy, hxy⟩ :=
      hboth (blind_enroll timeout : Blind ((onBus name config owns).enroll timeout))
    unfold act
    dsimp only
    rw [hx, hy]
    cases r <;> exact ⟨hxy, rfl, rfl⟩
  | embark number =>
    unfold act
    dsimp only
    cases enrolled[number]? with
    | none => exact ⟨hw, rfl, rfl⟩
    | some s =>
      obtain ⟨r, x, y, hx, hy, hxy⟩ :=
        hboth (blind_embark s : Blind ((onBus name config owns).embark s))
      dsimp only
      rw [hx, hy]
      cases r <;> exact ⟨hxy, rfl, rfl⟩
  | finish number =>
    unfold act
    dsimp only
    cases waiting[number]? with
    | none => exact ⟨hw, rfl, rfl⟩
    | some s => exact ⟨(blind_finishScan s w v hw).2, rfl, rfl⟩
  | signal s => exact hafter (Client.blind_signal s)
  | drop bus => exact hafter (parallel_bind (Client.blind_changeLink _) fun _ => parallel_pure _)
  | outlook connects replies disconnectFailure =>
    exact hafter (parallel_bind (Client.blind_changeLink _) fun _ => parallel_pure _)
  | kill => exact hafter (blind_onLoop _)

/-- Runs in twin lives leave twins behind. -/
theorem twin_run {l k : Life} (h : l.Twin k) (ms : List Move) :
    ((onBus name config owns).run ms l).Twin ((onBus name config owns).run ms k) := by
  induction ms generalizing l k with
  | nil => exact h
  | cons m rest ih => exact ih (twin_act h m)

end Controller

end BluetoothControl
