import BluetoothControl.Proofs.Controller.Close
import BluetoothControl.Proofs.Controller.Order

/-!
# A closed controller

Once closed, a controller's loop has ended for good, so every request is refused before anything
reaches the bus.  An operation that needs an answer stops with the refusal; a scan that was waiting
expects it, gives up its subscription all the same, and finds no device that still reports a
signal.
-/

namespace BluetoothControl

open Procedure

variable {κ α : Type} {name : String}

/-- The loop of this name has ended. -/
def Halted (name : String) (w : World κ) : Prop := w.loop.name = name ∧ w.loop.current = none

/-- With the loop of this name ended, a service refuses what a controller's operations start with,
and whatever it is asked the loop stays as it is. -/
structure Service.Refuses (s : Service κ) (name : String) : Prop where
  minds : s.Minds (Halted name)
  getPowered : ∀ path, Stops (Halted name) (.loopNotRunning name) (s.getPowered path)
  getDiscovering : ∀ path, Stops (Halted name) (.loopNotRunning name) (s.getDiscovering path)
  listObjects : ∀ interface, Stops (Halted name) (.loopNotRunning name) (s.listObjects interface)
  getRssi : ∀ path, Stops (Halted name) (.loopNotRunning name) (s.getRssi path)
  getConnected : ∀ path, Stops (Halted name) (.loopNotRunning name) (s.getConnected path)
  disconnect : ∀ path, Stops (Halted name) (.loopNotRunning name) (s.disconnect path)
  unsubscribe : ∀ handle, Stops (Halted name) (.loopNotRunning name) (s.unsubscribe handle)

/-! ## The client -/

namespace Client

/-- A task that is handed to a loop that has ended is never begun. -/
theorem runTask_halted {w : World Client} (h : Halted name w) (bound : Seconds) (task : Task α) :
    runTask bound task w =
      (.error (.loopNotRunning name), w.after w.service [.called (some bound)]) := by
  rw [runTask_eq, h.2, h.1]

theorem stops_perform (task : Task α) :
    Stops (Halted name) (.loopNotRunning name) (perform task) := fun w h =>
  congrArg Prod.fst (runTask_halted h w.service.callTimeout task)

theorem refuses_service (name : String) : service.Refuses name where
  minds := minds_service fun w v hv h => by
    obtain ⟨c, es, rfl, -⟩ := hv
    exact h
  getPowered _ := stops_map _ (stops_perform _)
  getDiscovering _ := stops_perform _
  listObjects _ := stops_map _ (stops_perform _)
  getRssi _ := stops_bind (stops_perform _)
  getConnected _ := stops_map _ (stops_bind (stops_perform _))
  disconnect _ := stops_perform _
  unsubscribe _ := stops_perform _

end Client

/-! ## Operations -/

namespace Controller

/-- An operation that begins with a request of the service, when so many connections were handed
out. -/
def Command.asks (handed : Nat) : Command → Bool
  | .isUp | .up | .down | .reset | .stopDiscovery | .scan _ => true
  | .connect address _ => (Address.normalize address).toOption.isSome
  | .isConnected number | .disconnect number => number < handed
  | .inquire | .detect _ | .info | .describe _ | .close => false

section
variable {c : Controller κ} (hr : c.service.Refuses name)

include hr

theorem stops_switchPower (wanted : Bool) :
    Stops (Halted name) (.loopNotRunning name) (c.switchPower wanted) :=
  stops_bind (hr.getPowered _)

/-- That discovery cannot be started is swallowed; the power state is read next. -/
theorem stops_up : Stops (Halted name) (.loopNotRunning name) c.up := by
  have hstart : Stops (Halted name) (.loopNotRunning name) c.startDiscovery :=
    stops_bind (hr.getDiscovering _)
  exact stops_after (fun w hw => ⟨(), ignoring_stops hstart rfl hw⟩)
    (keeps_ignoring (keeps_startDiscovery hr.minds)) fun _ => stops_switchPower hr true

theorem stops_down : Stops (Halted name) (.loopNotRunning name) c.down :=
  stops_after (fun _ _ => ⟨(), rfl⟩) (fun _ hw => hw) fun _ => stops_switchPower hr false

theorem stops_scan (timeout : Seconds) :
    Stops (Halted name) (.loopNotRunning name) (c.scan timeout) :=
  stops_bind (stops_bind (stops_after (fun _ _ => ⟨_, rfl⟩) (fun _ hw => hw) fun _ =>
    stops_bind (stops_bind (hr.listObjects _))))

theorem stops_connect {address : String} (ha : (Address.normalize address).toOption.isSome = true)
    (timeout : Seconds) :
    Stops (Halted name) (.loopNotRunning name) (c.connect address timeout) := by
  obtain ⟨a, hn⟩ := Option.isSome_iff_exists.mp ha
  refine stops_after (fun w _ => ⟨a, ?_⟩) (keeps_ofExcept _) fun _ => stops_bind (hr.getConnected _)
  exact eq_ok_of_toOption hn

/-- An operation that begins with a request stops with the refusal. -/
theorem execute_refused {w : World κ} (hw : Halted name w) {command : Command}
    (h : command.asks w.connections.length = true) :
    (c.execute command w).1 = .error (.loopNotRunning name) := by
  have handed {number : Nat} {f : Connection → Action κ Answer} (hn : number < w.connections.length)
      (hf : ∀ k, Stops (Halted name) (.loopNotRunning name) (f k)) :
      (withConnection number f w).1 = .error (.loopNotRunning name) := by
    unfold withConnection
    rw [bind_ok (get_apply w), List.getElem?_eq_getElem hn]
    exact hf _ w hw
  cases command with
  | isUp => exact stops_map _ (hr.getPowered _) w hw
  | up => exact stops_map _ (stops_up hr) w hw
  | down => exact stops_map _ (stops_down hr) w hw
  | reset => exact stops_map _ (stops_bind (stops_down hr)) w hw
  | stopDiscovery => exact stops_map _ (stops_bind (hr.getDiscovering _)) w hw
  | scan timeout => exact stops_map _ (stops_scan hr timeout) w hw
  | connect address timeout => exact stops_map _ (stops_connect hr h timeout) w hw
  | isConnected number =>
    exact handed (of_decide_eq_true h) fun k => stops_map _ (hr.getConnected k.path)
  | disconnect number =>
    exact handed (of_decide_eq_true h) fun k => stops_map _ (hr.disconnect k.path)
  | inquire => cases h
  | detect address => cases h
  | info => cases h
  | describe number => cases h
  | close => cases h

/-- No device counts as visible, since none of them can be read. -/
theorem visible_refused (r : Roster Value) {w : World κ} (hw : Halted name w) :
    (c.visible r w).1 = .ok [] ∧ Halted name (c.visible r w).2 := by
  induction r generalizing w with
  | nil => exact ⟨rfl, hw⟩
  | cons e rest ih =>
    have hs : c.strength e.1 w = (.ok 0, (c.strength e.1 w).2) := by
      have h := hr.getRssi (ObjectPath.ofDevice e.1 c.name) w hw
      unfold strength
      rcases hg : c.service.getRssi (ObjectPath.ofDevice e.1 c.name) w with ⟨r, v⟩
      rw [hg] at h
      cases h
      rw [tryCatch_error hg]
      rfl
    obtain ⟨hv, hh⟩ := ih (keeps_strength hr.minds.reads e.1 w hw)
    rcases ho : c.visible rest (c.strength e.1 w).2 with ⟨r, v⟩
    rw [ho] at hv hh
    cases hv
    refine ⟨?_, keeps_visible hr.minds.reads (e :: rest) w hw⟩
    show ((c.strength e.1 >>= fun k => c.visible rest >>= fun others => _) w).1 = _
    rw [bind_ok hs, bind_ok ho]
    rfl

theorem giveUp_refused (subscription : Value) {w : World κ} (hw : Halted name w) :
    c.giveUp subscription w = (.ok (), (c.giveUp subscription w).2) := by
  have h : (c.giveUp subscription w).1 = .ok () := by
    unfold giveUp
    exact ignoring_stops (hr.unsubscribe subscription) rfl hw
  exact Prod.ext h rfl

/-- A scan that has yet to start discovery stops with the refusal, and expects the same of giving up
its subscription. -/
theorem embark_refused (s : Scan) {w : World κ} (hw : Halted name w) :
    (c.embark s w).1 = .error (.loopNotRunning name) := by
  have hstart : Stops (Halted name) (.loopNotRunning name) c.startDiscovery :=
    stops_bind (hr.getDiscovering _)
  have hstops := hstart w hw
  have hv := keeps_startDiscovery hr.minds w hw
  rcases hs : c.startDiscovery w with ⟨r, v⟩
  rw [hs] at hstops hv
  cases hstops
  have hbody : (c.startDiscovery >>= fun _ => World.await s.timeout) w = (.error _, v) :=
    bind_error hs
  unfold embark
  rw [tryCatch_error hbody, bind_ok (giveUp_refused hr s.subscription hv)]
  rfl

/-- A scan whose wait is over answers that it found nothing. -/
theorem finishScan_refused (s : Scan) {w : World κ} (hw : Halted name w) :
    (c.finishScan s w).1 = .ok [] := by
  have hgive := giveUp_refused hr s.subscription hw
  have hv := keeps_giveUp hr.minds.unchecked s.subscription w hw
  generalize (c.giveUp s.subscription w).2 = v at hgive hv
  obtain ⟨hfound, -⟩ := visible_refused hr (v.session s.session).devices hv
  rcases ho : c.visible (v.session s.session).devices v with ⟨r, u⟩
  rw [ho] at hfound
  cases hfound
  unfold finishScan
  rw [bind_ok hgive, bind_ok (get_apply v), bind_ok ho]
  rfl

end

end Controller

/-! ## For good -/

/-- A world that comes after `start`, both with the controller closed: the loop has ended, every
connection handed out is as it was, and there was no traffic on the bus. -/
structure Dormant (name : String) (start w : World κ) : Prop where
  closed : w.closed = true
  halted : Halted name w
  gathered : w.loop.log = [] ∧ w.host.log = []
  connections : start.connections <+: w.connections
  silent : ∃ es, w.log = start.log ++ es ∧ Silent es

section
variable {start w : World κ}

theorem Dormant.seeing (h : Dormant name start w) {es : List Event} (hes : Silent es) (c : κ) :
    Dormant name start (w.after c es) := by
  obtain ⟨fs, hl, hs⟩ := h.silent
  refine { h with silent := ⟨fs ++ es, ?_, silent_append.mpr ⟨hs, hes⟩⟩ }
  rw [World.after_log, hl, List.append_assoc]

theorem steady_dormant (adapter : String) :
    Steady adapter (Dormant name start : World κ → Prop) where
  observe _ he w h := h.seeing (silent_singleton he) w.service
  wakeAll _ h := { h with }
  handOut _ _ _ _ h := { h with connections := h.connections.trans (List.prefix_append _ _) }
  onHost _ hp _ w h :=
    { h.seeing (silent_step hp h.gathered.2) w.service with gathered := ⟨h.gathered.1, rfl⟩ }

theorem dormant_changeSession (number : Nat) (f : DiscoverySession → DiscoverySession) :
    Keeps (Dormant name start : World κ → Prop) (World.changeSession number f) :=
  fun _ h => { h with }

/-- A step of the loop that does nothing once the loop has ended. -/
theorem dormant_onLoop {p : LoopAction α} (hp : ∀ l, l.current = none → (p l).2 = l) :
    Keeps (Dormant name start : World κ → Prop) (World.onLoop p) := by
  intro w h
  unfold World.onLoop
  rw [show p w.loop = ((p w.loop).1, w.loop) from Prod.ext rfl (hp w.loop h.halted.2)]
  dsimp only
  rw [h.gathered.1]
  exact { h.seeing silent_nil w.service with gathered := ⟨rfl, h.gathered.2⟩ }

end

section
variable {start : World Client}

namespace Client

theorem dormant_runTask (bound : Seconds) (task : Task α) :
    Keeps (Dormant name start) (runTask bound task) := by
  intro w h
  rw [runTask_halted h.halted]
  exact h.seeing (silent_singleton rfl) w.service

theorem dormant_perform (task : Task α) : Keeps (Dormant name start) (perform task) := fun w =>
  dormant_runTask w.service.callTimeout task w

theorem minds_dormant : service.Minds (Dormant name start) where
  getPowered _ := keeps_map _ (dormant_perform _)
  setPowered _ _ := dormant_perform _
  getDiscovering _ := dormant_perform _
  setDiscoveryFilter _ _ := dormant_perform _
  startDiscovery _ := dormant_perform _
  stopDiscovery _ := dormant_perform _
  listObjects _ := keeps_map _ (dormant_perform _)
  getAddress path := keeps_bind (dormant_perform _) fun props => by
    split
    · exact keeps_pure _
    · exact keeps_throw _
  getName _ := keeps_map _ (keeps_bind (dormant_perform _) fun _ => keeps_pure _)
  getRssi _ := keeps_bind (dormant_perform _) fun _ => keeps_pure _
  getConnected _ := keeps_map _ (keeps_bind (dormant_perform _) fun _ => keeps_pure _)
  connect _ timeout := keeps_bind (fun _ h => h) fun _ => keeps_bind (keeps_ofExcept _) fun bound =>
    dormant_runTask bound _
  disconnect _ := dormant_perform _
  unsubscribe _ := dormant_perform _
  close := by
    refine keeps_bind keeps_get fun w => ?_
    split
    · exact dormant_perform _
    · exact fun _ h => { h with }

theorem dormant_signal (s : Signal) : Keeps (Dormant name start) (signal s) := by
  refine keeps_signal (steady_dormant name).observe (fun number _ _ _ => ?_)
    (dormant_onLoop fun l _ => l.require_loop) s
  exact keeps_bind keeps_get fun _ => keeps_bind (keeps_ofExcept _) fun _ =>
    dormant_changeSession number _

theorem dormant_subscribe (s : Subscriber) :
    Keeps (Dormant name start) (service.subscribe s) :=
  keeps_map _ (keeps_bind (dormant_perform _) fun _ => keeps_pure _)

end Client

theorem calm_dormant : Calm (Dormant name start) where
  changeLink _ _ h := { h with }
  kill := dormant_onLoop fun l hl => by
    unfold EventLoop.kill
    rw [modify_apply, hl]

namespace Controller

variable {config : Config} {owns : Bool}

open Client in
/-- Whatever happens to a closed controller it stays closed, its connections are as they were, and
there is no traffic on the bus. -/
theorem dormant_act {m : Move} {l : Life} (h : Dormant name start l.world) :
    Dormant name start ((onBus name config owns).act l m).world := by
  have hs : (onBus name config owns).service.Minds (Dormant name start) := minds_dormant
  have hc := checked_of_minds (c := onBus name config owns) hs (steady_dormant name)
  refine keeps_act hs.unchecked hc (steady_dormant name) calm_dormant ?_
    (keeps_finishScan hs.unchecked fun _ _ => dormant_changeSession _ _) (fun w hw => ?_)
    (fun s _ => dormant_signal s) h
  · exact keeps_enroll hs.reads (fun _ _ hw => { hw with })
      (fun _ _ _ _ => dormant_changeSession _ _) fun _ => dormant_subscribe _
  · rw [close_closed hw.closed]
    exact hw

/-- However a controller on the bus comes to be closed, it is dormant then. -/
theorem dormant_close {callTimeout : Seconds} {w : World Client} (ho : Orderly name callTimeout w)
    (ht : Tidy w) :
    Dormant name ((onBus name config owns).close w).2 ((onBus name config owns).close w).2 := by
  have hv : Orderly name callTimeout ((onBus name config owns).close w).2 := orderly_close w ho
  have hended : Ended ((onBus name config owns).close w).2 := by
    cases hw : w.closed with
    | true =>
      rw [close_closed hw]
      exact ⟨hw, ht hw⟩
    | false =>
      rw [close_apply Client.civil_service hw]
      exact ended_dismantled Client.civil_service w
  exact {
    closed := hended.1
    halted :=
      ⟨hv.loop.1, Option.isNone_iff_eq_none.mp (by simpa [EventLoop.isRunning] using hended.2)⟩
    gathered := ⟨hv.loop.2, hv.host.1⟩
    connections := List.prefix_refl _
    silent := ⟨[], (List.append_nil _).symm, silent_nil⟩ }

end Controller

end

end BluetoothControl
