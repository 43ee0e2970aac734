import BluetoothControl.Controller.Run
import BluetoothControl.Proofs.Client.Frame
import BluetoothControl.Proofs.DevicePath
import BluetoothControl.Proofs.EventLoop.Effect
import BluetoothControl.Proofs.Host

/-!
# What a controller's operations keep

A controller works by requests of its service and a few steps of its own.  A property of worlds that
those keep is kept by every operation of the controller.
-/

namespace BluetoothControl

open Procedure

variable {κ : Type} {P : World κ → Prop}

/-- Every request of a service keeps a property, except perhaps the request to subscribe. -/
structure Service.Minds (s : Service κ) (P : World κ → Prop) : Prop where
  getPowered : ∀ path, Keeps P (s.getPowered path)
  setPowered : ∀ path powered, Keeps P (s.setPowered path powered)
  getDiscovering : ∀ path, Keeps P (s.getDiscovering path)
  setDiscoveryFilter : ∀ path filters, Keeps P (s.setDiscoveryFilter path filters)
  startDiscovery : ∀ path, Keeps P (s.startDiscovery path)
  stopDiscovery : ∀ path, Keeps P (s.stopDiscovery path)
  listObjects : ∀ interface, Keeps P (s.listObjects interface)
  getAddress : ∀ path, Keeps P (s.getAddress path)
  getName : ∀ path, Keeps P (s.getName path)
  getRssi : ∀ path, Keeps P (s.getRssi path)
  getConnected : ∀ path, Keeps P (s.getConnected path)
  connect : ∀ path timeout, Keeps P (s.connect path timeout)
  disconnect : ∀ path, Keeps P (s.disconnect path)
  unsubscribe : ∀ handle, Keeps P (s.unsubscribe handle)
  close : Keeps P s.close

/-- The reads that a scan makes of devices keep a property. -/
structure Service.Reads (s : Service κ) (P : World κ → Prop) : Prop where
  listObjects : ∀ interface, Keeps P (s.listObjects interface)
  getAddress : ∀ path, Keeps P (s.getAddress path)
  getName : ∀ path, Keeps P (s.getName path)
  getRssi : ∀ path, Keeps P (s.getRssi path)

/-- The requests that a controller makes without a check before them keep a property, the request to
subscribe apart. -/
structure Service.Unchecked (s : Service κ) (P : World κ → Prop) : Prop extends s.Reads P where
  getPowered : ∀ path, Keeps P (s.getPowered path)
  getConnected : ∀ path, Keeps P (s.getConnected path)
  disconnect : ∀ path, Keeps P (s.disconnect path)
  unsubscribe : ∀ handle, Keeps P (s.unsubscribe handle)

theorem Service.Minds.unchecked {s : Service κ} (h : s.Minds P) : s.Unchecked P where
  getPowered := h.getPowered
  listObjects := h.listObjects
  getAddress := h.getAddress
  getName := h.getName
  getRssi := h.getRssi
  getConnected := h.getConnected
  disconnect := h.disconnect
  unsubscribe := h.unsubscribe

theorem Service.Minds.reads {s : Service κ} (h : s.Minds P) : s.Reads P := h.unchecked.toReads

/-- The steps that the controller of an adapter takes by itself keep a property, its scans and its
end apart. -/
structure Steady (adapter : String) (P : World κ → Prop) : Prop where
  observe : ∀ e, e.isTraffic = false → Keeps P (World.observe e : Action κ Unit)
  wakeAll : Keeps P (World.wakeAll : Action κ Unit)
  handOut : ∀ address timeout, Address.isCanonical address.toList = true →
    Keeps P (modify fun w => { w with connections := w.connections ++
      [{ adapter, address, path := ObjectPath.ofDevice address adapter, timeout }] } :
      Action κ Unit)
  onHost : ∀ {α : Type} (p : HostAction α), Keeps (fun h => Silent h.log) p →
    Keeps Host.PrintsText p → Keeps P (World.onHost p)

/-- A wait keeps what its event keeps. -/
theorem keeps_await {bound : Seconds}
    (h : Keeps P (World.observe (.waited bound) : Action κ Unit)) :
    Keeps P (World.await bound : Action κ Unit) := by
  refine keeps_bind keeps_get fun w => ?_
  split
  · exact keeps_throw _
  · exact h

theorem Steady.await {adapter : String} (h : Steady adapter P) (bound : Seconds) :
    Keeps P (World.await bound : Action κ Unit) := keeps_await (h.observe _ rfl)

/-- A pause keeps what its event keeps. -/
theorem Steady.pause {adapter : String} (h : Steady adapter P) (duration : Seconds) :
    Keeps P (World.pause duration : Action κ Unit) := by
  refine keeps_bind keeps_get fun w => ?_
  split
  · exact keeps_throw _
  · exact h.observe _ rfl

/-- What happens around a controller on the bus, notifications apart, keeps a property. -/
structure Calm (P : World Client → Prop) : Prop where
  changeLink : ∀ f, Keeps P (Client.changeLink f : Action Client Unit)
  kill : Keeps P (World.onLoop EventLoop.kill)

/-- A procedure that goes on with an address goes on with a canonical one. -/
theorem keeps_normalize {α : Type} {s : String} {f : String → Action κ α}
    (hf : ∀ a, Address.isCanonical a.toList = true → Keeps P (f a)) :
    Keeps P (Procedure.ofExcept (Address.normalize s) >>= f) := by
  intro w hw
  cases h : Address.normalize s with
  | error e => exact hw
  | ok a => exact hf a (Address.isCanonical_of_normalize h) w hw

namespace Client

variable {P : World Client → Prop}

/-- What calls of the service keep, reads keep. -/
theorem reads_of_upholds (h : Upholds P) : service.Reads P where
  listObjects _ := keeps_map _ (keeps_perform h.called h.pace (keeps_listObjectsTask h.call))
  getAddress path := keeps_getAddress h path
  getName path := keeps_map _ (keeps_getName h path)
  getRssi path := keeps_getRssi h path

/-- What calls of the service keep, and removing subscribers and closing, every request keeps. -/
theorem minds_of_upholds (h : Upholds P) (hunsubscribe : ∀ handle, Keeps P (unsubscribeTask handle))
    (hclose : Keeps P close) : service.Minds P where
  getPowered _ := keeps_map _ (keeps_perform h.called h.pace (keeps_getFlag h.call))
  setPowered _ _ := keeps_perform h.called h.pace (keeps_setPoweredTask h.call _)
  getDiscovering _ := keeps_perform h.called h.pace (keeps_getFlag h.call)
  setDiscoveryFilter _ _ := keeps_perform h.called h.pace (keeps_setDiscoveryFilterTask h.call _)
  startDiscovery _ := keeps_request h
  stopDiscovery _ := keeps_request h
  listObjects := (reads_of_upholds h).listObjects
  getAddress := (reads_of_upholds h).getAddress
  getName := (reads_of_upholds h).getName
  getRssi := (reads_of_upholds h).getRssi
  getConnected path := keeps_map _ (keeps_getConnected h path)
  connect path timeout := keeps_connect h path timeout
  disconnect _ := keeps_request h
  unsubscribe handle := keeps_perform h.called h.pace (hunsubscribe handle)
  close := hclose

/-- What a client's doings without new subscribers keep, every request keeps. -/
theorem minds_service (h : ∀ w v, Within (fun _ => False) w v → P w → P v) : service.Minds P := by
  have kept : ∀ {α ε : Type} {p : Procedure ε (World Client) α},
      (∀ w, Keeps (Within (fun _ => False) w) p) → Keeps P p :=
    fun hp w hw => h w _ (hp w w (within_refl w)) hw
  refine minds_of_upholds
    ⟨fun bound w hw => ?_, fun hasty w hw => ?_,
      fun m context _ => kept fun _ => within_call m context⟩
    (fun handle => kept fun _ => within_unsubscribeTask handle) (kept fun _ => within_close)
  · exact h w _ (upholds_within.called bound w (within_refl w)) hw
  · exact h w _ (upholds_within.pace hasty w (within_refl w)) hw

end Client

namespace Controller

variable {c : Controller κ}

/-! ## Checks and what follows them -/

/-- The operations of a controller that change something only if a read calls for it keep a
property. -/
structure Checked (c : Controller κ) (P : World κ → Prop) : Prop where
  startDiscovery : Keeps P c.startDiscovery
  stopDiscovery : Keeps P c.stopDiscovery
  switchPower : ∀ wanted, Keeps P (c.switchPower wanted)
  connect : ∀ address timeout, Keeps P (c.connect address timeout)

/-- Reading the power state again and again keeps what a read keeps. -/
theorem keeps_awaitPower (hs : c.service.Unchecked P) (hp : Steady c.name P) (wanted : Bool)
    (n : Nat) : Keeps P (c.awaitPower wanted n) := by
  induction n with
  | zero => exact keeps_throw _
  | succ n ih =>
    refine keeps_bind (hs.getPowered _) fun powered => ?_
    split
    · exact keeps_pure _
    · split
      · exact keeps_bind (hp.pause _) fun _ => ih
      · exact ih

section
variable (hs : c.service.Minds P)

include hs

theorem keeps_startDiscovery : Keeps P c.startDiscovery := by
  refine keeps_bind (hs.getDiscovering _) fun b => ?_
  split
  · exact keeps_pure _
  · exact keeps_bind (hs.setDiscoveryFilter _ _) fun _ => keeps_ignoring (hs.startDiscovery _)

theorem keeps_stopDiscovery : Keeps P c.stopDiscovery := by
  refine keeps_bind (hs.getDiscovering _) fun b => ?_
  split
  · exact hs.stopDiscovery _
  · exact keeps_pure _

variable (hp : Steady c.name P)

include hp

theorem keeps_switchPower (wanted : Bool) : Keeps P (c.switchPower wanted) := by
  refine keeps_bind (hs.getPowered _) fun powered => ?_
  split
  · exact keeps_pure _
  · exact keeps_bind (hs.setPowered _ _) fun _ => keeps_bind (keeps_ofExcept _) fun _ =>
      keeps_awaitPower hs.unchecked hp wanted _

theorem keeps_connect (address : String) (timeout : Seconds) :
    Keeps P (c.connect address timeout) := by
  refine keeps_normalize fun address ha => keeps_bind (hs.getConnected _) fun v => ?_
  dsimp only
  split
  · exact keeps_bind (hs.connect _ _) fun _ => keeps_bind (hp.handOut address timeout ha) fun _ =>
      keeps_pure _
  · exact keeps_bind (hp.handOut address timeout ha) fun _ => keeps_pure _

/-- A property that every request keeps needs no checks. -/
theorem checked_of_minds : c.Checked P where
  startDiscovery := keeps_startDiscovery hs
  stopDiscovery := keeps_stopDiscovery hs
  switchPower := keeps_switchPower hs hp
  connect := keeps_connect hs hp

end

section
variable (hc : c.Checked P)

include hc

theorem keeps_up : Keeps P c.up :=
  keeps_bind (keeps_ignoring hc.startDiscovery) fun _ => hc.switchPower true

theorem keeps_close (hservice : Keeps P c.service.close)
    (hmark : ∀ w, P w → P { w with closed := true, wakes := w.wakes + 1 })
    (hstop : ∀ bound, Keeps P (World.onLoop (EventLoop.stop bound))) : Keeps P c.close := by
  intro w hw
  unfold close
  rw [bind_ok (get_apply w)]
  dsimp only
  split
  · exact hw
  · change P ((ignoring (·.kind.isOrdinary) c.stopDiscovery >>= _)
      { w with closed := true, wakes := w.wakes + 1 }).2
    refine keeps_bind (keeps_ignoring hc.stopDiscovery) (fun _ => ?_) _ (hmark w hw)
    split
    · exact keeps_bind (keeps_ignoring hservice) fun _ => keeps_ignoring (hstop _)
    · exact keeps_ignoring (hstop _)

variable (hp : Steady c.name P)

include hp

theorem keeps_down : Keeps P c.down :=
  keeps_bind hp.wakeAll fun _ => hc.switchPower false

theorem keeps_reset : Keeps P c.reset := keeps_bind (keeps_down hc hp) fun _ => keeps_up hc

end

/-! ## Scans -/

/-- A scan that has noted the known devices subscribes. -/
def enlist (c : Controller κ) (session : Nat) (timeout : Seconds) : Action κ Scan := do
  let subscription ← c.service.subscribe (.session session c.name)
  return { session, subscription, timeout }

theorem enroll_eq (c : Controller κ) (timeout : Seconds) :
    c.enroll timeout = World.openSession timeout >>= fun k =>
      c.noteKnown k >>= fun _ => c.enlist k timeout := rfl

section
variable (hs : c.service.Reads P)

include hs

theorem keeps_noteDevice {k : Nat}
    (hadd : ∀ address name, Address.isCanonical address.toList = true →
      Keeps P (World.changeSession k fun s => s.add address name))
    (path : String) : Keeps P (c.noteDevice k path) :=
  keeps_ignoring (keeps_bind (hs.getAddress path) fun _ => keeps_normalize fun address ha =>
    keeps_bind (hs.getName path) fun name => hadd address name ha)

theorem keeps_noteKnown {k : Nat}
    (hadd : ∀ address name, Address.isCanonical address.toList = true →
      Keeps P (World.changeSession k fun s => s.add address name)) :
    Keeps P (c.noteKnown k) := by
  refine keeps_bind (hs.listObjects _) fun objects => keeps_forEach (fun object => ?_) objects
  refine keeps_bind (keeps_ofExcept _) fun own => ?_
  split
  · exact keeps_noteDevice hs hadd _
  · exact keeps_pure _

theorem keeps_strength (address : String) : Keeps P (c.strength address) := by
  refine keeps_tryCatch (hs.getRssi _) fun f => ?_
  split
  · exact keeps_pure _
  · exact keeps_throw _

theorem keeps_visible (r : Roster Value) : Keeps P (c.visible r) := by
  induction r with
  | nil => exact keeps_pure _
  | cons e rest ih =>
    exact keeps_bind (keeps_strength hs e.1) fun _ => keeps_bind ih fun _ => keeps_pure _

/-- A scan that subscribes keeps what its session and its subscription keep. -/
theorem keeps_enroll (hopen : ∀ timeout, Keeps P (World.openSession timeout))
    (hadd : ∀ k address name, Address.isCanonical address.toList = true →
      Keeps P (World.changeSession k fun s => s.add address name))
    (hsub : ∀ k, Keeps P (c.service.subscribe (.session k c.name))) (timeout : Seconds) :
    Keeps P (c.enroll timeout) :=
  keeps_bind (hopen timeout) fun k => keeps_bind (keeps_noteKnown hs (hadd k)) fun _ =>
    keeps_bind (hsub k) fun _ => keeps_pure _

end

section
variable (hs : c.service.Unchecked P)

include hs

theorem keeps_giveUp (subscription : Value) : Keeps P (c.giveUp subscription) :=
  keeps_ignoring (hs.unsubscribe subscription)

theorem keeps_embark (hstart : Keeps P c.startDiscovery) (hp : Steady c.name P) (s : Scan) :
    Keeps P (c.embark s) :=
  keeps_tryCatch (keeps_bind hstart fun _ => hp.await _) fun _ =>
    keeps_bind (keeps_giveUp hs _) fun _ => keeps_throw _

theorem keeps_finishScan
    (hresult : ∀ k found, Keeps P (World.changeSession k fun t => { t with result := some found }))
    (s : Scan) : Keeps P (c.finishScan s) :=
  keeps_bind (keeps_giveUp hs _) fun _ => keeps_bind keeps_get fun _ =>
    keeps_bind (keeps_visible hs.toReads _) fun _ => keeps_bind (hresult _ _) fun _ => keeps_pure _

end

/-- A scan begins with its subscription, and then with its wait. -/
theorem keeps_beginScan (henroll : ∀ timeout, Keeps P (c.enroll timeout))
    (hembark : ∀ s, Keeps P (c.embark s)) {early : Action κ Unit} (hearly : Keeps P early)
    (timeout : Seconds) : Keeps P (c.beginScan timeout early) :=
  keeps_bind (henroll timeout) fun s => keeps_bind (keeps_discard (keeps_attempt hearly)) fun _ =>
    keeps_bind (hembark s) fun _ => keeps_pure s

/-! ## Commands and moves -/

theorem keeps_withConnection {f : Connection → Action κ Answer} (hf : ∀ k, Keeps P (f k))
    (number : Nat) : Keeps P (withConnection number f) := by
  refine keeps_bind keeps_get fun w => ?_
  split
  · exact hf _
  · exact keeps_pure _

theorem keeps_execute (hs : c.service.Unchecked P) (hc : c.Checked P) (hp : Steady c.name P)
    (hscan : ∀ timeout, Keeps P (c.scan timeout)) (hclose : Keeps P c.close) (command : Command) :
    Keeps P (c.execute command) := by
  have hhost : ∀ {α : Type} {p : HostAction α}, Plain (fun _ => True) p →
      Keeps P (World.onHost p) :=
    fun h => hp.onHost _ h.quiet h.legible
  cases command with
  | isUp => exact keeps_map _ (hs.getPowered _)
  | up => exact keeps_map _ (keeps_up hc)
  | down => exact keeps_map _ (keeps_down hc hp)
  | reset => exact keeps_map _ (keeps_reset hc hp)
  | stopDiscovery => exact keeps_map _ hc.stopDiscovery
  | inquire => exact keeps_map _ (hhost (plain_scan (fun _ _ => trivial) fun _ => trivial))
  | detect address =>
    exact keeps_map _ (hhost
      (plain_detect (fun _ _ => trivial) (fun _ _ => trivial) fun _ => trivial))
  | info => exact keeps_map _ (hhost (plain_info (fun _ _ => trivial) fun _ _ => trivial))
  | scan timeout => exact keeps_map _ (hscan timeout)
  | connect address timeout => exact keeps_map _ (hc.connect address timeout)
  | isConnected number => exact keeps_withConnection (fun _ => keeps_map _ (hs.getConnected _)) _
  | disconnect number => exact keeps_withConnection (fun _ => keeps_map _ (hs.disconnect _)) _
  | describe number => exact keeps_withConnection (fun _ => keeps_pure _) _
  | close => exact keeps_map _ hclose

end Controller

namespace Controller

variable {c : Controller Client} {P : World Client → Prop}

theorem keeps_act (hs : c.service.Unchecked P) (hc : c.Checked P) (hp : Steady c.name P)
    (hq : Calm P) (henroll : ∀ timeout, Keeps P (c.enroll timeout))
    (hfinish : ∀ s, Keeps P (c.finishScan s)) (hclose : Keeps P c.close) {m : Move}
    (hsignal : ∀ s, m = .signal s → Keeps P (Client.signal s)) {l : Life} (h : P l.world) :
    P (c.act l m).world := by
  have hembark : ∀ s, Keeps P (c.embark s) := keeps_embark hs hc.startDiscovery hp
  cases m with
  | command command =>
    refine keeps_execute hs hc hp (fun timeout => ?_) hclose command l.world h
    exact keeps_bind (keeps_beginScan henroll hembark (keeps_pure ()) timeout) fun s =>
      keeps_bind (fun _ hw => hw) fun _ => hfinish s
  | enroll timeout =>
    rw [world_act_enroll]
    exact henroll timeout l.world h
  | embark number =>
    rw [world_act_embark]
    cases l.enrolled[number]? with
    | none => exact h
    | some s => exact hembark s l.world h
  | finish number =>
    rw [world_act_finish]
    cases l.waiting[number]? with
    | none => exact h
    | some s => exact hfinish s l.world h
  | signal s => exact hsignal s rfl l.world h
  | drop bus => exact hq.changeLink (fun k => k.drop bus) l.world h
  | outlook connects replies disconnectFailure =>
    exact hq.changeLink (fun k => { k with connects, replies, disconnectFailure }) l.world h
  | kill => exact hq.kill l.world h

theorem keeps_run (hact : ∀ {m : Move} {l : Life}, P l.world → P (c.act l m).world) {l : Life}
    (h : P l.world) (ms : List Move) : P (c.run ms l).world := by
  induction ms generalizing l with
  | nil => exact h
  | cons m rest ih => exact ih (hact h)

end Controller

end BluetoothControl
