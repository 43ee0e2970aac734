import BluetoothControl.Proofs.Client.Reading
import BluetoothControl.Proofs.Controller.Hearing

/-!
# What a scan finds

A scan on the bus ends as the answers say that it follows (`scan_follows`), and every scan whose
listing succeeds follows some (`exists_follows`).
-/

namespace BluetoothControl.Controller

open Procedure

/-! ## Following answers -/

/-- From this world the known devices of a scan are read as these inquiries say, one after the
other; past a failure that ends the scan nothing is said. -/
def Learns (c : Controller Client) (k : Nat) : List Inquiry → World Client → Prop
  | [], _ => True
  | i :: rest, w =>
    (Client.deviceProperties i.path w).1 = i.first ∧
    (i.first.address? ≠ none →
      (Client.deviceProperties i.path (Client.deviceProperties i.path w).2).1 = i.second) ∧
    (i.failure? = none → c.Learns k rest (c.noteDevice k i.path w).2)

/-- From this world the devices of some addresses are read as `signal` says, each once, one after
the other; past a failure that ends the scan nothing is said. -/
def Measures (c : Controller Client) (signal : String → Reading) :
    List String → World Client → Prop
  | [], _ => True
  | address :: rest, w =>
    (Client.deviceProperties (ObjectPath.ofDevice address c.name) w).1 = signal address ∧
    ((signal address).failure? (·.isA .service) = none →
      c.Measures signal rest (Client.deviceProperties (ObjectPath.ofDevice address c.name) w).2)

/-- A scan that begins in this world lists the objects, and its known devices are read as these
inquiries say. -/
def Learned (c : Controller Client) (timeout : Seconds) (w : World Client) (known : List Inquiry) :
    Prop :=
  ∃ paths v, Client.listObjects deviceInterface (World.openSession timeout w).2 = (.ok paths, v) ∧
    known.map (·.path) = paths.filter (ObjectPath.isChild · c.name) ∧
    c.Learns w.sessions.length known v

/-- A scan is told these answers, as far as it gets: its listing succeeds, `es` happens once it has
subscribed and `ms` while it waits. -/
structure Follows (c : Controller Client) (timeout : Seconds) (es ms : List Move) (l : Life)
    (a : Answers) : Prop where
  learned : c.Learned timeout l.world a.known
  started : ∀ v, c.noteKnown l.world.sessions.length (World.openSession timeout l.world).2 =
    (.ok (), v) → (c.beginScan timeout (c.during es l) l.world).1.map (fun _ => ()) = a.start
  heard : ∀ s, (c.beginScan timeout (c.during es l) l.world).1 = .ok s →
    c.heard s.session es (l.after (c.enroll timeout)) ++
      c.heard s.session ms (c.begun timeout es l) = a.heard
  stopped : ∀ s, (c.beginScan timeout (c.during es l) l.world).1 = .ok s →
    (c.giveUp s.subscription (c.run ms (c.begun timeout es l)).world).1 = a.stop
  measured : ∀ s u, (c.beginScan timeout (c.during es l) l.world).1 = .ok s →
    c.giveUp s.subscription (c.run ms (c.begun timeout es l)).world = (.ok (), u) →
    c.Measures a.signal (a.noted c.name).addresses u

variable {name : String} {config : Config} {owns : Bool} {own : Seconds} {k : Nat}
  {D : Roster Value} {w : World Client}

/-! ## One known device -/

/-- A device is asked for its address. -/
def askAddress (path : String) : Action Client String := do
  let reported ← Client.getAddress path
  Procedure.ofExcept (Address.normalize reported)

theorem excuses_of_normalize {text : String} {f : Failure}
    (h : Address.normalize text = .error f) : Inquiry.excuses f = true := by
  unfold Address.normalize at h
  split at h
  · cases h
  · cases h
    rfl

/-- A device tells a canonical address, or what it tells is excused, or the reading failed. -/
theorem askAddress_spec {path : String} {r : Reading} {u : World Client}
    (h : Client.deviceProperties path w = (r, u)) :
    (∃ f, askAddress path w = (.error f, u) ∧ r.address? = none ∧
      r.failure? Inquiry.excuses = if Inquiry.excuses f then none else some f) ∨
    ∃ a, askAddress path w = (.ok a, u) ∧ r.address? = some a := by
  unfold askAddress Client.getAddress
  rw [bind_assoc]
  cases r with
  | error f => exact Or.inl ⟨f, bind_error h, rfl, rfl⟩
  | ok props =>
    rw [bind_ok h]
    unfold Reading.address?
    cases hp : props.get? "Address" with
    | none =>
      refine Or.inl ⟨.addressMissing path, ?_, ?_, rfl⟩ <;> simp only [hp]
      exact bind_error rfl
    | some x =>
      cases x with
      | text t =>
        simp only [hp]
        change (∃ f, Procedure.ofExcept (Address.normalize t) u = (.error f, u) ∧ _) ∨
          ∃ a, Procedure.ofExcept (Address.normalize t) u = (.ok a, u) ∧ _
        cases hn : Address.normalize t with
        | error f =>
          refine Or.inl ⟨f, rfl, rfl, ?_⟩
          rw [excuses_of_normalize hn]
          rfl
        | ok a => exact Or.inr ⟨a, rfl, rfl⟩
      | _ =>
        refine Or.inl ⟨.addressMissing path, ?_, ?_, rfl⟩ <;> simp only [hp]
        exact bind_error rfl

/-- What reading a device's name comes to. -/
theorem getName_apply (path : String) (w : World Client) :
    Client.service.getName path w =
      ((Client.deviceProperties path w).1.map fun props =>
        Value.ofText? ((props.get? "Name").bind Value.text?),
        (Client.deviceProperties path w).2) := by
  show (Value.ofText? <$> (Client.deviceProperties path >>= fun props =>
    pure ((props.get? "Name").bind Value.text?)) : Action Client Value) w = _
  rw [map_apply, bind_apply]
  rcases Client.deviceProperties path w with ⟨r, v⟩
  cases r <;> rfl

theorem holds_deviceProperties (path : String) :
    Keeps (Holds k D) (Client.deviceProperties path) := by
  intro w h
  have := minds_holds.getName path w h
  rwa [getName_apply] at this

/-- What noting a known device tries. -/
def tryDevice (k : Nat) (path : String) : Action Client Unit := do
  let address ← askAddress path
  let name ← Client.service.getName path
  World.changeSession k fun s => s.add address name

theorem noteDevice_eq (path : String) : (onBus name config owns).noteDevice k path =
    ignoring Inquiry.excuses (tryDevice k path) := by
  unfold tryDevice askAddress
  rw [bind_assoc]
  rfl

theorem holds_add {address : String} {n : Value} (h : Holds k D w) :
    Holds k (D.note address (DiscoverySession.nameOf n))
      (World.changeSession k (fun s => s.add address n) w).2 := by
  obtain ⟨s, hs, rfl⟩ := h
  refine ⟨s.add address n, ?_, rfl⟩
  show (w.sessions.modify k _)[k]? = _
  simp [hs]

/-- A known device is noted, or it fails for a reason that its readings tell. -/
theorem tryDevice_spec {i : Inquiry} (hfirst : (Client.deviceProperties i.path w).1 = i.first)
    (hsecond : i.first.address? ≠ none →
      (Client.deviceProperties i.path (Client.deviceProperties i.path w).2).1 = i.second)
    (h : Holds k D w) :
    (∃ f v, tryDevice k i.path w = (.error f, v) ∧ i.device? = none ∧
      i.failure? = (if Inquiry.excuses f then none else some f) ∧ Holds k D v) ∨
    ∃ e v, tryDevice k i.path w = (.ok (), v) ∧ i.device? = some e ∧ i.failure? = none ∧
      Holds k (D.note e.1 e.2) v := by
  have hu : Holds k D (Client.deviceProperties i.path w).2 := holds_deviceProperties i.path w h
  rcases hr : Client.deviceProperties i.path w with ⟨r, u⟩
  rw [hr] at hfirst hsecond hu
  change r = i.first at hfirst
  subst hfirst
  unfold tryDevice Inquiry.device? Inquiry.failure?
  rcases askAddress_spec hr with ⟨f, hask, ha, hf⟩ | ⟨a, hask, ha⟩
  · rw [bind_error hask, ha]
    exact Or.inl ⟨f, u, rfl, rfl, hf, hu⟩
  · have hs := hsecond (by rw [ha]; exact Option.some_ne_none a)
    have hv := holds_deviceProperties i.path u hu
    have hname := getName_apply i.path u
    rw [bind_ok hask, ha]
    change (Client.deviceProperties i.path u).1 = i.second at hs
    rw [hs] at hname
    cases h2 : i.second with
    | error f =>
      rw [h2] at hname
      exact Or.inl ⟨f, _, bind_error hname, rfl, rfl, hv⟩
    | ok props =>
      rw [h2] at hname
      exact Or.inr ⟨_, _, bind_ok hname, rfl, rfl, holds_add hv⟩

/-- A known device fails the scan as its readings say, or is noted as they say. -/
theorem noteDevice_spec {i : Inquiry} (hfirst : (Client.deviceProperties i.path w).1 = i.first)
    (hsecond : i.first.address? ≠ none →
      (Client.deviceProperties i.path (Client.deviceProperties i.path w).2).1 = i.second)
    (h : Holds k D w) :
    ((onBus name config owns).noteDevice k i.path w).1 =
      Answers.conclude i.failure?.toList () ∧
    Holds k (D.noteAll i.device?.toList) ((onBus name config owns).noteDevice k i.path w).2 := by
  rw [noteDevice_eq, ignoring_apply]
  rcases tryDevice_spec hfirst hsecond h with ⟨f, v, ht, he, hf, hv⟩ | ⟨e, v, ht, he, hf, hv⟩
  · rw [ht, he, hf]
    refine ⟨?_, hv⟩
    dsimp only
    split <;> rfl
  · rw [ht, he, hf]
    exact ⟨rfl, hv⟩

/-! ## All known devices -/

/-- An object is noted if it belongs to the adapter. -/
theorem noteObject_text (p : String) : (onBus name config owns).noteObject k (.text p) =
    if ObjectPath.isChild p name then (onBus name config owns).noteDevice k p else pure () := by
  unfold noteObject DiscoverySession.ownPath?
  show (Procedure.ofExcept (.ok (if ObjectPath.isChild p name then some p else none)) >>= _) = _
  cases ObjectPath.isChild p name <;> rfl

/-- The known devices of the adapter, among all objects, are read one after the other. -/
theorem noteObjects_spec {paths : List String} {is : List Inquiry}
    (hpaths : is.map (·.path) = paths.filter (ObjectPath.isChild · name))
    (hl : (onBus name config owns).Learns k is w) (h : Holds k D w) :
    (forEach ((onBus name config owns).noteObject k) (paths.map .text) w).1 =
      Answers.conclude (is.filterMap Inquiry.failure?) () ∧
    (is.filterMap Inquiry.failure? = [] → Holds k (D.noteAll (is.filterMap Inquiry.device?))
      (forEach ((onBus name config owns).noteObject k) (paths.map .text) w).2) := by
  induction paths generalizing is w D with
  | nil =>
    obtain rfl : is = [] := by simpa using hpaths
    exact ⟨rfl, fun _ => h⟩
  | cons p rest ih =>
    rw [List.map_cons, forEach, noteObject_text]
    cases hc : ObjectPath.isChild p name with
    | false =>
      rw [List.filter_cons_of_neg (by simp [hc])] at hpaths
      rw [if_neg Bool.false_ne_true]
      exact ih hpaths hl h
    | true =>
      rw [List.filter_cons_of_pos (by simp [hc])] at hpaths
      rw [if_pos rfl]
      cases is with
      | nil => cases hpaths
      | cons i is =>
        obtain ⟨rfl, hrest⟩ := List.cons.inj hpaths
        obtain ⟨hfirst, hsecond, hlater⟩ := hl
        have hspec : ((onBus name config owns).noteDevice k i.path w).1 = _ ∧
            Holds k _ ((onBus name config owns).noteDevice k i.path w).2 :=
          noteDevice_spec hfirst hsecond h
        obtain ⟨hr, hh⟩ := hspec
        rcases hnote : (onBus name config owns).noteDevice k i.path w with ⟨r, v⟩
        rw [hnote] at hr hh hlater
        change r = _ at hr
        subst hr
        cases hf : i.failure? with
        | some f =>
          rw [hf] at hnote
          rw [bind_error hnote, List.filterMap_cons_some hf]
          exact ⟨rfl, fun hnil => by cases hnil⟩
        | none =>
          rw [hf] at hnote
          rw [bind_ok hnote, List.filterMap_cons_none hf]
          obtain ⟨hr, hh⟩ := ih hrest (hlater hf) hh
          refine ⟨hr, fun hnil => ?_⟩
          have := hh hnil
          cases he : i.device? with
          | none =>
            rw [he] at this
            rw [List.filterMap_cons_none he]
            exact this
          | some e =>
            rw [he] at this
            rw [List.filterMap_cons_some he]
            exact this

/-- The known devices are noted when they have been listed. -/
theorem noteKnown_of_listed {paths : List String} {v : World Client}
    (h : Client.listObjects deviceInterface w = (.ok paths, v)) :
    (onBus name config owns).noteKnown k w =
      forEach ((onBus name config owns).noteObject k) (paths.map .text) v := by
  have hobjects := map_apply (List.map Value.text) (Client.listObjects deviceInterface) w
  rw [h] at hobjects
  exact bind_ok hobjects

/-- What comes of noting the known devices of a scan that follows some answers. -/
theorem noteKnown_spec {timeout : Seconds} {es ms : List Move} {l : Life} {a : Answers}
    (h : (onBus name config owns).Follows timeout es ms l a) :
    let n := l.world.sessions.length
    let r := (onBus name config owns).noteKnown n (World.openSession timeout l.world).2
    r.1 = Answers.conclude (a.known.filterMap Inquiry.failure?) () ∧
    (a.known.filterMap Inquiry.failure? = [] →
      Holds n (Roster.noteAll [] (a.known.filterMap Inquiry.device?)) r.2) := by
  intro n r
  obtain ⟨paths, v, hlist, hpaths, hlearns⟩ := h.learned
  have hopen : Holds n [] (World.openSession timeout l.world).2 :=
    ⟨{ timeout }, List.getElem?_concat_length, rfl⟩
  have hv := (minds_holds (k := n) (D := [])).listObjects deviceInterface _ hopen
  have hobjects := map_apply (List.map Value.text) (Client.listObjects deviceInterface)
    (World.openSession timeout l.world).2
  rw [hlist] at hobjects
  rw [show Client.service.listObjects deviceInterface _ = _ from hobjects] at hv
  have hr : r = forEach ((onBus name config owns).noteObject n) (paths.map .text) v :=
    noteKnown_of_listed hlist
  rw [hr]
  exact noteObjects_spec hpaths hlearns hv

/-! ## The signal strengths -/

/-- What is left when the devices of some addresses were read, each once, in order. -/
def remeasured (c : Controller Client) (addresses : List String) (w : World Client) :
    World Client :=
  addresses.foldl (fun w a => (Client.deviceProperties (ObjectPath.ofDevice a c.name) w).2) w

/-- The strength of a signal that is read. -/
def strengthOf (r : Reading) : Int :=
  match r with
  | .ok props => ((props.get? "RSSI").bind Value.int?).getD 0
  | .error _ => 0

theorem strengthOf_eq_zero (r : Reading) : strengthOf r = 0 ↔ r.hasSignal = false := by
  cases r with
  | ok props => simp [strengthOf, Reading.hasSignal]
  | error f => simp [strengthOf, Reading.hasSignal]

/-- What the strength of a device comes to when it was read. -/
theorem strength_spec {address : String} {r : Reading} {u : World Client}
    (h : Client.deviceProperties (ObjectPath.ofDevice address name) w = (r, u)) :
    (onBus name config owns).strength address w =
      (Answers.conclude (r.failure? (·.isA .service)).toList (strengthOf r), u) := by
  unfold strength
  cases r with
  | ok props => exact tryCatch_ok (bind_ok h)
  | error f =>
    refine (tryCatch_error (bind_error h)).trans ?_
    show (if f.isA .service then pure 0 else throw f : Action Client Int) u =
      (Answers.conclude (if f.isA .service then none else some f).toList 0, u)
    split <;> rfl

/-- The devices that report a signal are those whose readings do. -/
theorem visible_spec {signal : String → Reading} {r : Roster Value}
    (h : (onBus name config owns).Measures signal r.addresses w) :
    let failures := r.filterMap fun e => (signal e.1).failure? (·.isA .service)
    ((onBus name config owns).visible r w).1 =
      Answers.conclude failures (r.filter fun e => (signal e.1).hasSignal) ∧
    (failures = [] → ((onBus name config owns).visible r w).2 =
      (onBus name config owns).remeasured r.addresses w) := by
  induction r generalizing w with
  | nil => exact ⟨rfl, fun _ => rfl⟩
  | cons e rest ih =>
    have hread : (Client.deviceProperties (ObjectPath.ofDevice e.1 name) w).1 = signal e.1 := h.1
    have hrest : (signal e.1).failure? (·.isA .service) = none →
        (onBus name config owns).Measures signal (Roster.addresses rest)
          (Client.deviceProperties (ObjectPath.ofDevice e.1 name) w).2 := h.2
    have hs : (onBus name config owns).strength e.1 w = _ := strength_spec (Prod.ext hread rfl)
    dsimp only at ih ⊢
    rw [visible]
    cases hf : (signal e.1).failure? (·.isA .service) with
    | some f =>
      rw [hf] at hs
      rw [bind_error hs]
      simp only [List.filterMap_cons, hf]
      exact ⟨rfl, fun hnil => by cases hnil⟩
    | none =>
      rw [hf] at hs
      obtain ⟨hr, hw⟩ := ih (hrest hf)
      rw [bind_ok hs, bind_apply]
      simp only [List.filterMap_cons, hf]
      rcases hv : (onBus name config owns).visible rest
        (Client.deviceProperties (ObjectPath.ofDevice e.1 name) w).2 with ⟨others, v⟩
      rw [hv] at hr hw
      dsimp only at hr hw
      rw [hr]
      cases hfs : rest.filterMap fun e => (signal e.1).failure? (·.isA .service) with
      | cons f fs => exact ⟨rfl, fun hnil => by cases hnil⟩
      | nil =>
        refine ⟨?_, fun _ => hw hfs⟩
        show (.ok (if strengthOf (signal e.1) = 0 then _ else _) : Except Failure _) = _
        simp only [List.filter_cons, strengthOf_eq_zero]
        cases (signal e.1).hasSignal <;> rfl

/-! ## The scan -/

/-- A scan that has begun has subscribed, and then come to wait. -/
theorem of_beginScan_ok {c : Controller Client} {timeout : Seconds} {early : Action Client Unit}
    {s : Scan} {x : World Client} (h : c.beginScan timeout early w = (.ok s, x)) :
    ∃ v, c.enroll timeout w = (.ok s, v) ∧ c.embark s (early v).2 = (.ok (), x) := by
  obtain ⟨t, v, hs, hrest⟩ := of_bind_ok h
  obtain ⟨_, u, hu, hend⟩ := of_bind_ok hrest
  obtain ⟨_, y, hy, hpure⟩ := of_bind_ok hend
  cases hpure
  obtain rfl : (early v).2 = u := congrArg Prod.snd hu
  exact ⟨v, hs, hy⟩

/-- A scan that has subscribed writes to the session that it opened, and has noted the known
devices. -/
theorem of_enroll_ok {c : Controller Client} {timeout : Seconds} {s : Scan} {v : World Client}
    (h : c.enroll timeout w = (.ok s, v)) :
    ∃ u, c.noteKnown w.sessions.length (World.openSession timeout w).2 = (.ok (), u) ∧
      c.enlist w.sessions.length timeout u = (.ok s, v) ∧ s.session = w.sessions.length := by
  rw [enroll_eq] at h
  obtain ⟨k, x, hopen, hrest⟩ := of_bind_ok h
  cases hopen
  obtain ⟨_, u, hnote, henlist⟩ := of_bind_ok hrest
  obtain ⟨_, _, _, hpure⟩ := of_bind_ok henlist
  cases hpure
  exact ⟨u, hnote, henlist, rfl⟩

/-- Before it waits a scan has noted what its inquiries say and what it heard since it subscribed,
unless one of its steps failed. -/
theorem beginScan_spec {timeout : Seconds} {es ms : List Move} {l : Life} {a : Answers}
    (ho : Orderly name own l.world) (h : (onBus name config owns).Follows timeout es ms l a) :
    let c := onBus name config owns
    (c.beginScan timeout (c.during es l) l.world).1.map (fun _ => ()) =
      (Answers.conclude (a.known.filterMap Inquiry.failure?) () >>= fun _ => a.start) ∧
    ∀ s, (c.beginScan timeout (c.during es l) l.world).1 = .ok s →
      Holds s.session ((Roster.noteAll [] (a.known.filterMap Inquiry.device?)).noteAll
        ((c.heard s.session es (l.after (c.enroll timeout))).filterMap (Notice.device? name)))
        (c.begun timeout es l).world := by
  intro c
  obtain ⟨hr, hh⟩ := noteKnown_spec h
  have hstart := h.started
  rcases hnote : c.noteKnown l.world.sessions.length (World.openSession timeout l.world).2
    with ⟨r, u⟩
  rw [hnote] at hr hh hstart
  dsimp only at hr
  cases hfs : a.known.filterMap Inquiry.failure? with
  | cons f fs =>
    rw [hfs] at hr
    subst hr
    have henroll : c.enroll timeout l.world = (.error f, u) := by
      rw [enroll_eq]
      exact (bind_ok rfl).trans (bind_error hnote)
    have hbegin : c.beginScan timeout (c.during es l) l.world = (.error f, u) := bind_error henroll
    rw [hbegin]
    exact ⟨rfl, fun s hs => by cases hs⟩
  | nil =>
    rw [hfs] at hr
    subst hr
    refine ⟨hstart u rfl, fun s hs => ?_⟩
    obtain ⟨v, henroll, hembark⟩ := of_beginScan_ok (Prod.ext hs rfl)
    obtain ⟨u', hnote', henlist, hk⟩ := of_enroll_ok henroll
    cases hnote.symm.trans hnote'
    have hentered : Orderly name own (l.after (c.enroll timeout)).world :=
      orderly_enroll timeout _ ho
    have hv : Holds s.session (Roster.noteAll [] (a.known.filterMap Inquiry.device?))
        (l.after (c.enroll timeout)).world := by
      have hu : Holds l.world.sessions.length _ (c.enlist l.world.sessions.length timeout u).2 :=
        holds_enlist l.world.sessions.length timeout u (hh hfs)
      rw [henlist, ← hk] at hu
      show Holds _ _ (c.enroll timeout l.world).2
      rw [henroll]
      exact hu
    have hrun : Holds s.session _ (c.embark s (c.run es (l.after (c.enroll timeout))).world).2 :=
      holds_embark s _ (holds_run hentered hv es)
    have hafter : l.after (c.enroll timeout) = { l with world := v } := by
      unfold Life.after
      rw [henroll]
    rw [hafter] at hrun ⊢
    have hend :
        (c.begun timeout es l).world = (c.embark s (c.run es { l with world := v }).world).2 :=
      (congrArg Prod.snd hembark).symm
    rw [hend]
    exact hrun

/-- Once its subscription is given up a scan answers with what is visible of what it noted. -/
theorem finishScan_of_giveUp {s : Scan} {u : World Client}
    (hg : (onBus name config owns).giveUp s.subscription w = (.ok (), u))
    (hu : Holds s.session D u) :
    ((onBus name config owns).finishScan s w).1 = ((onBus name config owns).visible D u).1 ∧
    ((onBus name config owns).finishScan s w).2.log =
      ((onBus name config owns).visible D u).2.log := by
  have hfinish : (onBus name config owns).finishScan s w =
      ((onBus name config owns).visible D >>= fun found => do
        World.changeSession s.session fun t => { t with result := some found }
        return found) u := by
    rw [← hu.session]
    exact bind_ok hg
  rw [hfinish, bind_apply]
  rcases (onBus name config owns).visible D u with ⟨r, v⟩
  cases r <;> exact ⟨rfl, rfl⟩

/-- After its wait a scan goes on as its answers say. -/
theorem finishScan_spec {a : Answers} {s : Scan} (h : Holds s.session (a.noted name) w)
    (hstop : ((onBus name config owns).giveUp s.subscription w).1 = a.stop)
    (hsignal : ∀ u, (onBus name config owns).giveUp s.subscription w = (.ok (), u) →
      (onBus name config owns).Measures a.signal (a.noted name).addresses u) :
    ((onBus name config owns).finishScan s w).1 = (a.stop >>= fun _ =>
      Answers.conclude (a.silences name) (a.found name)) := by
  have hu := keeps_giveUp (c := onBus name config owns) minds_holds.unchecked s.subscription w h
  rcases hg : (onBus name config owns).giveUp s.subscription w with ⟨r, u⟩
  rw [hg] at hstop hu
  rw [← hstop]
  cases r with
  | error f =>
    rw [show (onBus name config owns).finishScan s w = (.error f, u) from bind_error hg]
    rfl
  | ok x => exact (finishScan_of_giveUp hg hu).1.trans (visible_spec (hsignal u hg)).1

/-- A scan that answers after its wait has given up its subscription and read what it noted. -/
theorem finishScan_log {a : Answers} {s : Scan} (h : Holds s.session (a.noted name) w)
    (hsignal : ∀ u, (onBus name config owns).giveUp s.subscription w = (.ok (), u) →
      (onBus name config owns).Measures a.signal (a.noted name).addresses u)
    (hfailures : a.silences name = [])
    {found : Roster Value} (hr : ((onBus name config owns).finishScan s w).1 = .ok found) :
    ∃ u, (onBus name config owns).giveUp s.subscription w = (.ok (), u) ∧
      ((onBus name config owns).finishScan s w).2.log =
        ((onBus name config owns).remeasured (a.noted name).addresses u).log := by
  have hu := keeps_giveUp (c := onBus name config owns) minds_holds.unchecked s.subscription w h
  rcases hg : (onBus name config owns).giveUp s.subscription w with ⟨r, u⟩
  rw [hg] at hu
  cases r with
  | error f =>
    rw [show (onBus name config owns).finishScan s w = (.error f, u) from bind_error hg] at hr
    cases hr
  | ok x =>
    refine ⟨u, rfl, (finishScan_of_giveUp hg hu).2.trans ?_⟩
    rw [(visible_spec (hsignal u hg)).2 hfailures]

/-- What others do once a scan has subscribed leaves the controller in order. -/
theorem orderly_begun {timeout : Seconds} {es : List Move} {l : Life}
    (ho : Orderly name own l.world) :
    Orderly name own ((onBus name config owns).begun timeout es l).world :=
  keeps_beginScan orderly_enroll orderly_embark
    (fun _ hw => keeps_run orderly_act hw es) timeout l.world ho

/-- While a scan waits it notes what it hears besides what it noted before. -/
theorem holds_waited {timeout : Seconds} {es ms : List Move} {l : Life} {a : Answers}
    (ho : Orderly name own l.world) (h : (onBus name config owns).Follows timeout es ms l a)
    {s : Scan}
    (hs : ((onBus name config owns).beginScan timeout ((onBus name config owns).during es l)
      l.world).1 = .ok s) :
    Holds s.session (a.noted name)
      ((onBus name config owns).run ms ((onBus name config owns).begun timeout es l)).world := by
  have hrun : Holds s.session _ ((onBus name config owns).run ms
      ((onBus name config owns).begun timeout es l)).world :=
    holds_run (orderly_begun ho) ((beginScan_spec ho h).2 s hs) ms
  rwa [← Roster.noteAll_append, ← Roster.noteAll_append,
    ← List.filterMap_append, h.heard s hs, Roster.noteAll_nil] at hrun

/-- A scan that has begun goes on from where its wait leaves the others. -/
theorem scan_of_begun {c : Controller Client} {timeout : Seconds} {es ms : List Move} {l : Life}
    {s : Scan} (hs : (c.beginScan timeout (c.during es l) l.world).1 = .ok s) :
    c.scan timeout (c.during es l) (c.during ms (c.begun timeout es l)) l.world =
      c.finishScan s (c.run ms (c.begun timeout es l)).world :=
  bind_ok (p := c.beginScan timeout (c.during es l)) (Prod.ext hs rfl)

/-- A scan ends as its answers say. -/
theorem scan_follows {timeout : Seconds} {es ms : List Move} {l : Life} {a : Answers}
    (ho : Orderly name own l.world) (h : (onBus name config owns).Follows timeout es ms l a) :
    let c := onBus name config owns
    (c.scan timeout (c.during es l) (c.during ms (c.begun timeout es l)) l.world).1 =
      a.outcome name := by
  intro c
  have hbegin := (beginScan_spec ho h).1
  rw [Answers.outcome_eq, ← bind_assoc, ← hbegin]
  rcases hs : c.beginScan timeout (c.during es l) l.world with ⟨r, v⟩
  cases r with
  | error f => exact congrArg Prod.fst (bind_error hs)
  | ok s =>
    have hs' := congrArg Prod.fst hs
    rw [scan_of_begun hs']
    exact finishScan_spec (holds_waited ho h hs') (h.stopped s hs') fun u => h.measured s u hs'

end BluetoothControl.Controller
