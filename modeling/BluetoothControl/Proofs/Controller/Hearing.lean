import BluetoothControl.Controller.Answers
import BluetoothControl.Proofs.Controller.Order

/-!
# What a session hears

Once a scan has subscribed its session notes the devices that it hears of, in order, and nothing
else that happens touches it (`holds_run`).
-/

namespace BluetoothControl

open Procedure

/-- Whether a subscriber is that of a session. -/
def Subscriber.isOf (k : Nat) : Subscriber → Bool
  | .session j _ => j == k
  | .callback .. => false

/-- What a session hears of a notification: the announcement, each time that its subscriber is
told. -/
def heardOf (k : Nat) (s : Signal) (w : World Client) : List Notice :=
  if w.loop.isRunning then
    match Client.announcement? s with
    | some (path, .dict props) =>
      ((Client.told w.service).filter fun e => e.2.isOf k).map fun _ => (path, Props.unwrap props)
    | _ => []
  else []

/-- What a session hears of a move. -/
def Controller.Move.heard (k : Nat) (w : World Client) : Move → List Notice
  | .signal s => heardOf k s w
  | _ => []

/-- What a session hears while moves are made. -/
def Controller.heard (c : Controller Client) (k : Nat) : List Move → Life → List Notice
  | [], _ => []
  | m :: rest, l => m.heard k l.world ++ c.heard k rest (c.act l m)

/-- The session was begun, and these are its devices. -/
def Holds (k : Nat) (devices : Roster Value) (w : World Client) : Prop :=
  ∃ s, w.sessions[k]? = some s ∧ s.devices = devices

variable {k : Nat} {D : Roster Value} {w : World Client}

theorem Holds.lt (h : Holds k D w) : k < w.sessions.length := by
  obtain ⟨s, hs, -⟩ := h
  exact (List.getElem?_eq_some_iff.mp hs).1

theorem Holds.session (h : Holds k D w) : (w.session k).devices = D := by
  obtain ⟨s, hs, rfl⟩ := h
  rw [session_eq hs]

/-- Another session may change; of this one all but its devices may. -/
theorem Holds.changeSession (h : Holds k D w) {j : Nat}
    {f : DiscoverySession → DiscoverySession} (hf : j = k → ∀ s, (f s).devices = s.devices) :
    Holds k D { w with sessions := w.sessions.modify j f } := by
  obtain ⟨s, hs, rfl⟩ := h
  by_cases hj : j = k
  · subst hj
    exact ⟨f s, by simp [hs], hf rfl s⟩
  · exact ⟨s, by simp [hs, hj], rfl⟩

/-! ## Operations -/

theorem minds_holds : Client.service.Minds (Holds k D) := by
  refine Client.minds_service fun w v hv h => ?_
  obtain ⟨c, es, rfl, -⟩ := hv
  exact h

theorem holds_subscribe (s : Subscriber) : Keeps (Holds k D) (Client.service.subscribe s) := by
  have hc : Keeps (Holds k D) (Client.subscribe s) := by
    intro w h
    obtain ⟨c, es, hv, -⟩ := Client.within_subscribe (A := fun _ => True) trivial w
      (Client.within_refl (w := w)) (s := s)
    rw [hv]
    exact h
  exact keeps_map _ (keeps_bind hc fun _ => keeps_pure _)

theorem steady_holds (adapter : String) : Steady adapter (Holds k D) where
  observe _ _ _ h := h
  wakeAll _ h := h
  handOut _ _ _ _ h := h
  onHost _ _ _ _ h := h

theorem calm_holds : Calm (Holds k D) where
  changeLink _ _ h := h
  kill _ h := h

namespace Controller

variable {name : String} {config : Config} {owns : Bool} {own : Seconds}

theorem holds_enlist (j : Nat) (timeout : Seconds) :
    Keeps (Holds k D) ((onBus name config owns).enlist j timeout) :=
  keeps_bind (holds_subscribe _) fun _ => keeps_pure _

theorem holds_embark (s : Scan) : Keeps (Holds k D) ((onBus name config owns).embark s) :=
  keeps_embark (c := onBus name config owns) minds_holds.unchecked
    (keeps_startDiscovery minds_holds) (steady_holds name) s

/-- A scan that begins writes to a session of its own. -/
theorem holds_enroll (timeout : Seconds) :
    Keeps (Holds k D) ((onBus name config owns).enroll timeout) := by
  intro w h
  have hne : w.sessions.length ≠ k := Nat.ne_of_gt h.lt
  rw [enroll_eq]
  change Holds k D (((onBus name config owns).noteKnown w.sessions.length >>= fun _ => _)
    { w with sessions := w.sessions ++ [{ timeout }] }).2
  refine keeps_bind (keeps_noteKnown (c := onBus name config owns) minds_holds.reads
    fun _ _ _ _ hv => hv.changeSession fun hj => absurd hj hne)
    (fun _ => holds_enlist _ timeout) _ ?_
  obtain ⟨s, hs, hd⟩ := h
  refine ⟨s, ?_, hd⟩
  exact (List.getElem?_append_left (List.getElem?_eq_some_iff.mp hs).1).trans hs

theorem holds_finishScan (s : Scan) :
    Keeps (Holds k D) ((onBus name config owns).finishScan s) :=
  keeps_finishScan (c := onBus name config owns) minds_holds.unchecked
    (fun _ _ _ h => h.changeSession fun _ _ => rfl) s

theorem holds_close : Keeps (Holds k D) (onBus name config owns).close :=
  keeps_close (c := onBus name config owns) (checked_of_minds minds_holds (steady_holds name))
    minds_holds.close (fun _ h => h) fun _ _ h => h

/-- No move but a notification touches what a session has noted. -/
theorem holds_act {m : Move} (hm : ∀ s, m ≠ .signal s) {l : Life} (h : Holds k D l.world) :
    Holds k D ((onBus name config owns).act l m).world :=
  keeps_act (c := onBus name config owns) minds_holds.unchecked
    (checked_of_minds minds_holds (steady_holds name)) (steady_holds name) calm_holds
    holds_enroll holds_finishScan holds_close (fun s hs => absurd hs (hm s)) h

end Controller

/-! ## Notifications -/

/-- What a session makes of an announcement that it hears. -/
theorem devices_of_hear {s t : DiscoverySession} {adapter : String} {path : Value} {props : Props}
    (h : s.hear adapter path (.dict props) = .ok t) :
    t.devices = s.devices.noteAll (Notice.device? adapter (path, props)).toList := by
  rw [DiscoverySession.hear_eq] at h
  unfold Notice.device?
  cases path with
  | text p =>
    cases hc : ObjectPath.isChild p adapter with
    | false =>
      simp only [DiscoverySession.ownPath?, hc, Except.map] at h
      cases h
      simp [hc, Roster.noteAll]
    | true =>
      simp only [DiscoverySession.ownPath?, hc, Except.map] at h
      cases ha : DiscoverySession.announced? (.dict props) with
      | none =>
        simp only [ha] at h
        cases h
        simp [hc, Roster.noteAll]
      | some e =>
        simp only [ha] at h
        cases h
        simp [hc, Roster.noteAll, DiscoverySession.add]
  | _ => cases h

/-- A session whose path could not be one hears nothing. -/
theorem device?_of_hear_error {s : DiscoverySession} {adapter : String} {path : Value}
    {props : Props} {f : Failure} (h : s.hear adapter path (.dict props) = .error f) :
    Notice.device? adapter (path, props) = none := by
  rw [DiscoverySession.hear_eq] at h
  cases path with
  | text p => cases h
  | _ => rfl

/-- An announcement to a session: the device is noted, if it is one of the adapter's. -/
theorem holds_announceTo (h : Holds k D w) (adapter : String) (path : Value) (props : Props) :
    Holds k (D.noteAll (Notice.device? adapter (path, props)).toList)
      (World.announceTo k adapter path (.dict props) w).2 := by
  obtain ⟨s, hs, rfl⟩ := h
  unfold World.announceTo
  rw [bind_ok (get_apply w), bind_apply, ofExcept_apply, session_eq hs]
  cases hh : s.hear adapter path (.dict props) with
  | error f =>
    rw [device?_of_hear_error hh]
    exact ⟨s, hs, rfl⟩
  | ok t =>
    rw [← devices_of_hear hh]
    exact ⟨t, by show (w.sessions.modify k _)[k]? = _; simp [hs], rfl⟩

/-- An announcement to another session. -/
theorem holds_announceTo_of_ne {j : Nat} (hj : j ≠ k) (adapter : String) (path props : Value) :
    Keeps (Holds k D) (World.announceTo j adapter path props) :=
  keeps_bind keeps_get fun _ => keeps_bind (keeps_ofExcept _) fun _ _ h =>
    h.changeSession fun he => absurd he hj

/-- What one who is told of an announcement makes a session note. -/
def heardBy (k : Nat) (adapter : String) (n : Notice) (e : Nat × Subscriber) : Roster Value :=
  if e.2.isOf k then (n.device? adapter).toList else []

variable {name : String}

theorem holds_tell (h : Holds k D w) {path : Value} {props : Props} {e : Nat × Subscriber}
    (ha : ∀ j a, e.2 = .session j a → a = name) :
    Holds k (D.noteAll (heardBy k name (path, Props.unwrap props) e))
      (Client.tell path props e w).2 := by
  obtain ⟨n, s⟩ := e
  unfold Client.tell Client.deliver
  rw [ignoring_state]
  cases s with
  | callback label reaction =>
    refine keeps_bind (fun _ h => h) (fun _ => ?_) w h
    cases reaction <;> exact fun _ h => h
  | session j a =>
    obtain rfl : a = name := ha j a rfl
    show Holds k _ (World.announceTo j a path (.dict (Props.unwrap props)) w).2
    by_cases hj : j = k
    · subst hj
      simpa [heardBy, Subscriber.isOf] using holds_announceTo h a path (Props.unwrap props)
    · have hk := holds_announceTo_of_ne hj a path (.dict (Props.unwrap props)) w h
      simpa [heardBy, Subscriber.isOf, hj, Roster.noteAll] using hk

theorem holds_forEach_tell {path : Value} {props : Props} {es : List (Nat × Subscriber)}
    (ha : ∀ e ∈ es, ∀ j a, e.2 = .session j a → a = name) (h : Holds k D w) :
    Holds k (D.noteAll (es.flatMap (heardBy k name (path, Props.unwrap props))))
      (forEach (Client.tell path props) es w).2 := by
  induction es generalizing D w with
  | nil => exact h
  | cons e rest ih =>
    have he : Holds k _ (Client.tell path props e w).2 := holds_tell h (ha e List.mem_cons_self)
    rw [List.flatMap_cons, Roster.noteAll_append]
    show Holds k _
      ((Client.tell path props e >>= fun _ => forEach (Client.tell path props) rest) w).2
    rcases hv : Client.tell path props e w with ⟨r, v⟩
    rw [hv] at he
    have hr : r = .ok () := by
      have := Client.deliver_ok path (Props.unwrap props) e.2 w
      rw [show Client.deliver path (Props.unwrap props) e.2 w = (r, v) from hv] at this
      exact this
    subst hr
    rw [bind_ok hv]
    exact ih (fun d hd => ha d (List.mem_cons_of_mem _ hd)) he

theorem flatMap_heardBy (n : Notice) (es : List (Nat × Subscriber)) :
    es.flatMap (heardBy k name n) =
      ((es.filter fun e => e.2.isOf k).map fun _ => n).filterMap (Notice.device? name) := by
  induction es with
  | nil => rfl
  | cons e rest ih =>
    rw [List.flatMap_cons, ih, List.filter_cons]
    unfold heardBy
    cases e.2.isOf k with
    | false => rfl
    | true =>
      simp only [if_true, List.map_cons, List.filterMap_cons]
      cases n.device? name <;> rfl

/-- What is left when a client was asked for its loop's thread. -/
def required (w : World Client) : World Client :=
  { w with loop := { w.loop with log := [] }, log := w.log ++ w.loop.log }

/-- A client whose loop has ended takes in no notification. -/
theorem required_apply (w : World Client) : discard (World.onLoop EventLoop.require) w =
    ((if w.loop.isRunning then .ok () else .error (.loopNotRunning w.loop.name), required w) :
      Except Failure Unit × _) := by
  have hw : World.onLoop EventLoop.require w = ((EventLoop.require w.loop).1, required w) := by
    show ((EventLoop.require w.loop).1, { w with
      loop := { (EventLoop.require w.loop).2 with log := [] }
      log := w.log ++ (EventLoop.require w.loop).2.log }) = _
    rw [EventLoop.require_loop]
    rfl
  rw [discard_apply, hw]
  unfold EventLoop.require EventLoop.isRunning
  rw [bind_ok (get_apply _)]
  cases w.loop.current <;> rfl

/-- A notification: the session notes what it hears. -/
theorem holds_signal {own : Seconds} (h : Orderly name own w) (hk : Holds k D w) (s : Signal) :
    Holds k (D.noteAll ((heardOf k s w).filterMap (Notice.device? name)))
      (Client.signal s w).2 := by
  have hv := required_apply w
  have hkv : Holds k D (required w) := hk
  unfold heardOf Client.signal
  cases hr : w.loop.isRunning with
  | false =>
    rw [hr] at hv
    rw [bind_error hv]
    exact hkv
  | true =>
    rw [hr] at hv
    rw [bind_ok hv, bind_ok (Client.current_apply _), if_pos rfl]
    cases ha : Client.announcement? s with
    | none =>
      refine keeps_forEach (fun _ => ?_) _ _ hkv
      rw [Client.handle_eq, ha]
      exact keeps_pure ()
    | some n =>
      obtain ⟨path, props⟩ := n
      cases props with
      | dict props =>
        rw [Client.forEach_handle ha]
        dsimp only
        rw [← flatMap_heardBy]
        refine holds_forEach_tell (fun e he j a hj => ?_) hkv
        obtain ⟨es, hes, hmem⟩ := List.mem_flatten.mp he
        rw [List.eq_of_mem_replicate hes] at hmem
        exact (h.subscribers e hmem j a hj).2
      | _ =>
        refine keeps_forEach (fun _ => ?_) _ _ hkv
        rw [Client.handle_eq, ha]
        exact keeps_throw _

/-! ## Runs -/

namespace Controller

variable {config : Config} {owns : Bool} {own : Seconds}

/-- While moves are made a session notes what it hears, in order. -/
theorem holds_run {l : Life} (h : Orderly name own l.world) (hk : Holds k D l.world)
    (ms : List Move) :
    Holds k (D.noteAll (((onBus name config owns).heard k ms l).filterMap (Notice.device? name)))
      ((onBus name config owns).run ms l).world := by
  induction ms generalizing D l with
  | nil => exact hk
  | cons m rest ih =>
    rw [heard, List.filterMap_append, Roster.noteAll_append, run_cons]
    refine ih (orderly_act h) ?_
    cases m with
    | signal s => exact holds_signal h hk s
    | _ => exact holds_act (fun _ hs => by cases hs) hk

end Controller

end BluetoothControl
