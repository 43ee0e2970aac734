import BluetoothControl.History
import BluetoothControl.Proofs.Client.Asking
import BluetoothControl.Proofs.Controller.Order

/-!
# Checks before changes

A controller sends a message that changes an adapter or connects a device only on the word of a
read, and nothing else goes to the service in between.  `Warrants` lists what has to come directly
before each of these messages; `disciplined_run` shows that it does, whatever fails on the way and
wherever connections go down.
-/

namespace BluetoothControl

open Procedure

/-! ## What warrants a message -/

/-- A message that a controller sends only after a check. -/
def Message.isGuarded (m : Message) : Bool :=
  (m.interface == adapterInterface &&
      (m.member == "StartDiscovery" || m.member == "StopDiscovery")) ||
    (m.interface == propertiesInterface && m.member == "Set") ||
    (m.interface == deviceInterface && m.member == "Connect")

/-- The dialogue so far warrants a message that follows directly: discovery was read as off and then
limited to the transport before it is started, was read as on before it is stopped, the power was
read as the opposite before it is set, and the device was not reported connected before it is
connected. -/
inductive Warrants (transport : Value) (before : List Exchange) : Message → Prop
  | unguarded {m : Message} (free : m.isGuarded = false) : Warrants transport before m
  | start {path : String} {g f : Delivery} (idle : g.reads false = true)
      (limited : f.isAccepted = true)
      (directly : [⟨.read path adapterInterface "Discovering", g⟩,
        ⟨.setFilter path [("Transport", transport)], f⟩] <:+ before) :
      Warrants transport before (.toAdapter path "StartDiscovery")
  | stop {path : String} {g : Delivery} (running : g.reads true = true)
      (directly : [⟨.read path adapterInterface "Discovering", g⟩] <:+ before) :
      Warrants transport before (.toAdapter path "StopDiscovery")
  | switch {path : String} {g : Delivery} {powered : Bool} (differs : g.reads (!powered) = true)
      (directly : [⟨.read path adapterInterface "Powered", g⟩] <:+ before) :
      Warrants transport before (.setPowered path powered)
  | connect {path : String} {g : Delivery} (apart : g.deniesConnected = true)
      (directly : [⟨Client.propertiesMessage path, g⟩] <:+ before) :
      Warrants transport before (.toDevice path "Connect")

/-- The fate of every message to the service is told, and every message is warranted by what was
said before it. -/
structure Disciplined (transport : Value) (log : List Event) : Prop where
  told : requests log = (dialogue log).map (·.message)
  warranted : Throughout (fun before e => Warrants transport before e.message) (dialogue log)

section
variable {t : Value} {log es : List Event}

theorem Disciplined.append (h : Disciplined t log) (hes : Unaddressed es) :
    Disciplined t (log ++ es) := by
  have hd : dialogue (log ++ es) = dialogue log := by
    rw [dialogue_append, hes.dialogue, List.append_nil]
  refine ⟨?_, hd ▸ h.warranted⟩
  rw [hd, requests_append, hes.requests, List.append_nil]
  exact h.told

theorem Disciplined.concat {m : Message} {d : Delivery} (h : Disciplined t log)
    (hs : requests es = [m]) (hd : dialogue es = [⟨m, d⟩]) (hw : Warrants t (dialogue log) m) :
    Disciplined t (log ++ es) := by
  refine ⟨?_, ?_⟩
  · rw [requests_append, dialogue_append, hs, hd, List.map_append, h.told]
    rfl
  · rw [dialogue_append, hd]
    exact throughout_concat.mpr ⟨h.warranted, hw⟩

end

/-! ## What keeps the discipline -/

/-- The dialogue so far is disciplined, and the log holds all that was observed. -/
structure Obedient (transport : Value) (w : World Client) : Prop where
  disciplined : Disciplined transport w.log
  gathered : w.loop.log = [] ∧ w.host.log = []

section
variable {t : Value} {w : World Client} {α β : Type} {m : Message} {Q : α → Delivery → Prop}

theorem Obedient.after (h : Obedient t w) (c : Client) {es : List Event} (hes : Unaddressed es) :
    Obedient t (w.after c es) := ⟨h.disciplined.append hes, h.gathered⟩

/-- A warranted message keeps the discipline. -/
theorem Obedient.asks {p : Action Client α} (h : Obedient t w) (hp : Client.Asks m Q p)
    (hm : Warrants t (dialogue w.log) m) : Obedient t (p w).2 := by
  obtain ⟨c, es, hv, hr⟩ := hp w
  rw [hv]
  rcases hr with ⟨-, hes⟩ | ⟨d, hs, hd, -⟩
  · exact h.after c hes
  · exact ⟨h.disciplined.concat hs hd hm, h.gathered⟩

theorem keeps_of_asks {p : Action Client α} (hp : Client.Asks m Q p) (hm : m.isGuarded = false) :
    Keeps (Obedient t) p := fun _ h => h.asks hp (.unguarded hm)

/-- What follows an answer may rely on what was said last. -/
theorem Obedient.check {p : Action Client α} {f : α → Action Client β} {xs : List Exchange}
    (h : Obedient t w) (hx : xs <:+ dialogue w.log) (hp : Client.Asks m Q p)
    (hm : m.isGuarded = false)
    (hf : ∀ a d v, Q a d → Obedient t v → xs ++ [⟨m, d⟩] <:+ dialogue v.log →
      Obedient t (f a v).2) :
    Obedient t ((p >>= f) w).2 := by
  have hv := h.asks hp (.unguarded hm)
  obtain ⟨c, es, ha, hr⟩ := hp w
  rw [bind_apply]
  rcases hpw : p w with ⟨r, v⟩
  rw [hpw] at hv ha hr
  cases r with
  | error e => exact hv
  | ok a =>
    rcases hr with ⟨⟨e, he⟩, -⟩ | ⟨d, -, hd, hq⟩
    · cases he
    · refine hf a d v (hq a rfl) hv ?_
      rw [show v = w.after c es from ha, World.after_log, dialogue_append, hd]
      obtain ⟨ys, hys⟩ := hx
      exact ⟨ys, by rw [← hys, List.append_assoc]⟩

theorem withstands_obedient : Client.Withstands (fun _ => True) (Obedient t) :=
  Client.withstands_of_observe (fun _ _ _ h => h.after _ unaddressed_nil)
    fun _ he _ h => h.after _ (unaddressed_singleton he)

theorem unhurried_obedient : Client.Unhurried (Obedient t) :=
  fun _ _ h => h.after _ unaddressed_nil

theorem steady_obedient (adapter : String) : Steady adapter (Obedient t) where
  observe _ he _ h := h.after _ (silent_singleton he).unaddressed
  wakeAll _ h := { h with }
  handOut _ _ _ _ h := { h with }
  onHost _ hp _ w h :=
    { h.after w.service (silent_step hp h.gathered.2).unaddressed with
      gathered := ⟨h.gathered.1, rfl⟩ }

theorem obedient_onLoop {p : LoopAction α} (hp : ∀ l, l.log = [] → Silent (p l).2.log) :
    Keeps (Obedient t) (World.onLoop p) := fun w h =>
  { h.after w.service (hp w.loop h.gathered.1).unaddressed with gathered := ⟨rfl, h.gathered.2⟩ }

theorem calm_obedient : Calm (Obedient t) where
  changeLink f w h := by
    rw [Client.changeLink_apply]
    exact h.after _ unaddressed_nil
  kill := obedient_onLoop fun _ => EventLoop.silent_kill

theorem obedient_signal (s : Signal) : Keeps (Obedient t) (Client.signal s) := by
  refine Client.keeps_signal (fun e he => (steady_obedient "").observe e he)
    (fun number _ _ _ => ?_) (obedient_onLoop fun l hl => ?_) s
  · exact keeps_bind keeps_get fun _ => keeps_bind (keeps_ofExcept _) fun _ _ h => { h with }
  · rw [l.require_loop, hl]
    exact silent_nil

end

/-! ## Requests without a check -/

namespace Client

/-- What procedures keep that ask one thing which needs no check, reads keep. -/
theorem reads_of_asks {P : World Client → Prop}
    (h : ∀ {α : Type} {p : Action Client α} {m : Message} {Q : α → Delivery → Prop},
      Asks m Q p → m.isGuarded = false → Keeps P p) : service.Reads P where
  listObjects interface := keeps_map _ (h (asks_listObjects interface) rfl)
  getAddress path := keeps_bind (h (asks_deviceProperties path) rfl) fun props => by
    split
    · exact keeps_pure _
    · exact keeps_throw _
  getName path :=
    keeps_map _ (keeps_bind (h (asks_deviceProperties path) rfl) fun _ => keeps_pure _)
  getRssi path := keeps_bind (h (asks_deviceProperties path) rfl) fun _ => keeps_pure _

variable {t : Value}

theorem unchecked_obedient : service.Unchecked (Obedient t) where
  toReads := reads_of_asks keeps_of_asks
  getPowered _ := keeps_map _ (keeps_of_asks asks_getFlag rfl)
  getConnected path :=
    keeps_map _ (keeps_bind (keeps_of_asks (asks_deviceProperties path) rfl) fun _ => keeps_pure _)
  disconnect _ := keeps_of_asks asks_request rfl
  unsubscribe handle := keeps_unsubscribe withstands_obedient unhurried_obedient handle

end Client

/-! ## Checks -/

namespace Controller

variable {name : String} {config : Config} {owns : Bool}

theorem obedient_startDiscovery :
    Keeps (Obedient config.transport) (onBus name config owns).startDiscovery := by
  intro w h
  refine h.check List.nil_suffix Client.asks_getFlag rfl fun b g v hg hv hx => ?_
  cases b with
  | true => exact hv
  | false =>
    refine hv.check (m := .setFilter (ObjectPath.ofAdapter name) [("Transport", config.transport)])
      hx Client.asks_request rfl fun _ f u hf hu hy => ?_
    show Obedient _ (ignoring _ _ u).2
    rw [ignoring_state]
    exact hu.asks Client.asks_request (.start hg hf hy)

theorem obedient_stopDiscovery :
    Keeps (Obedient config.transport) (onBus name config owns).stopDiscovery := by
  intro w h
  refine h.check List.nil_suffix Client.asks_getFlag rfl fun b g v hg hv hx => ?_
  cases b with
  | true => exact hv.asks Client.asks_request (.stop hg hx)
  | false => exact hv

theorem obedient_switchPower (wanted : Bool) :
    Keeps (Obedient config.transport) ((onBus name config owns).switchPower wanted) := by
  intro w h
  have hread : Client.Asks (.read (ObjectPath.ofAdapter name) adapterInterface "Powered")
      (fun v d => d.reads v.truth = true) (onBus name config owns).isUp :=
    Client.asks_map _ Client.asks_getFlag fun _ _ hq => hq
  refine h.check List.nil_suffix hread rfl fun v g u hg hu hx => ?_
  split
  · exact hu
  · next hne =>
    have hv : v.truth = !wanted := Bool.eq_not.mpr (by simpa using hne)
    refine keeps_rest (hu.asks Client.asks_request (.switch (hv ▸ hg) hx)) fun _ => ?_
    exact keeps_bind (keeps_ofExcept _) fun n =>
      keeps_awaitPower Client.unchecked_obedient (steady_obedient name) wanted n

theorem obedient_connect (address : String) (timeout : Seconds) :
    Keeps (Obedient config.transport) ((onBus name config owns).connect address timeout) := by
  refine keeps_normalize fun address ha w h => ?_
  have hread : Client.Asks (Client.propertiesMessage (ObjectPath.ofDevice address name))
      (fun v d => v.truth = false → d.deniesConnected = true)
      (Client.service.getConnected (ObjectPath.ofDevice address name)) :=
    Client.asks_map _ (Client.asks_getConnected _) fun _ _ hq => hq
  have hp := steady_obedient (t := config.transport) name
  refine h.check List.nil_suffix hread rfl fun v g u hg hu hx => ?_
  split
  · next hne =>
    have hv : v.truth = false := by simpa using hne
    exact keeps_rest (hu.asks (Client.asks_connect _ timeout) (.connect (hg hv) hx)) fun _ =>
      keeps_bind (hp.handOut address timeout ha) fun _ => keeps_pure _
  · exact keeps_bind (hp.handOut address timeout ha) (fun _ => keeps_pure _) u hu

theorem checked_obedient : (onBus name config owns).Checked (Obedient config.transport) where
  startDiscovery := obedient_startDiscovery
  stopDiscovery := obedient_stopDiscovery
  switchPower := obedient_switchPower
  connect := obedient_connect

/-! ## Runs -/

theorem obedient_act {m : Move} {l : Life} (h : Obedient config.transport l.world) :
    Obedient config.transport ((onBus name config owns).act l m).world := by
  have hs : (onBus name config owns).service.Unchecked (Obedient config.transport) :=
    Client.unchecked_obedient
  have hp := steady_obedient (t := config.transport) name
  refine keeps_act hs checked_obedient hp calm_obedient ?_
    (keeps_finishScan hs fun _ _ _ h => { h with }) ?_ (fun s _ => obedient_signal s) h
  · refine keeps_enroll hs.toReads (fun _ _ h => { h with }) (fun _ _ _ _ _ h => { h with })
      fun _ => ?_
    exact keeps_map _ (keeps_bind (Client.keeps_subscribe withstands_obedient
      unhurried_obedient trivial) fun _ =>
      keeps_pure _)
  · exact keeps_close checked_obedient (Client.keeps_close withstands_obedient unhurried_obedient)
      (fun _ h => { h with }) fun bound => obedient_onLoop fun _ => EventLoop.silent_stop bound

end Controller

end BluetoothControl
