import BluetoothControl.Proofs.Controller.Discovery

/-!
# The devices found

Every scan whose listing succeeds follows some answers (`exists_follows`), so what a scan finds is
what its answers say (`scan_finds`).
-/

namespace BluetoothControl

open Procedure

/-! ## Proper entries -/

theorem Reading.isCanonical_of_address? {r : Reading} {address : String}
    (h : r.address? = some address) : Address.isCanonical address.toList = true := by
  unfold Reading.address? at h
  split at h
  · split at h
    · exact Address.isCanonical_of_normalize (eq_ok_of_toOption h)
    · cases h
  · cases h

namespace DiscoverySession

/-- The name under which a device is entered that reports a text, or none, is a text. -/
theorem nameOf_ofText? (reported : Option String) :
    ∃ n, nameOf (.ofText? reported) = .text n ∧ n ≠ "" := by
  cases reported with
  | none => exact ⟨unknownName, rfl, by decide⟩
  | some n =>
    by_cases hn : n = ""
    · subst hn
      exact ⟨unknownName, rfl, by decide⟩
    · refine ⟨n, if_pos ?_, hn⟩
      simpa [Value.ofText?, Value.truth] using hn

theorem exists_name_of_announced? {props : Value} {e : String × Value}
    (h : announced? props = some e) : ∃ reported, e.2 = .ofText? reported := by
  unfold announced? at h
  split at h
  · split at h
    · obtain ⟨a, -, rfl⟩ := Option.map_eq_some_iff.mp h
      exact ⟨_, rfl⟩
    · cases h
  · cases h

end DiscoverySession

/-- An entry has a canonical address, and its name is a text that is not empty. -/
def Roster.IsProper (e : String × Value) : Prop :=
  Address.isCanonical e.1.toList = true ∧ ∃ n, e.2 = .text n ∧ n ≠ ""

theorem Inquiry.isProper_of_device? {i : Inquiry} {e : String × Value} (h : i.device? = some e) :
    Roster.IsProper e := by
  unfold Inquiry.device? at h
  split at h
  · next ha _ =>
    cases h
    exact ⟨Reading.isCanonical_of_address? ha, DiscoverySession.nameOf_ofText? _⟩
  · cases h

theorem Notice.isProper_of_device? {adapter : String} {n : Notice} {e : String × Value}
    (h : n.device? adapter = some e) : Roster.IsProper e := by
  unfold Notice.device? at h
  split at h
  · split at h
    · obtain ⟨d, hd, rfl⟩ := Option.map_eq_some_iff.mp h
      have hc : Address.isCanonical d.1.toList = true :=
        DiscoverySession.isCanonical_of_announced? hd
      obtain ⟨reported, hr⟩ := DiscoverySession.exists_name_of_announced? hd
      refine ⟨hc, ?_⟩
      rw [hr]
      exact DiscoverySession.nameOf_ofText? reported
    · cases h
  · cases h

namespace Answers

variable {a : Answers} {adapter : String}

/-- Devices are noted by canonical addresses and under names. -/
theorem isProper_of_mem_noted {e : String × Value} (h : e ∈ a.noted adapter) :
    Roster.IsProper e := by
  rcases List.mem_append.mp (Roster.mem_of_mem_firsts h) with h | h
  · obtain ⟨i, -, hi⟩ := List.mem_filterMap.mp h
    exact Inquiry.isProper_of_device? hi
  · obtain ⟨n, -, hn⟩ := List.mem_filterMap.mp h
    exact Notice.isProper_of_device? hn

theorem nodup_noted : (a.noted adapter).addresses.Nodup := Roster.nodup_firsts _

theorem nodup_found : (a.found adapter).addresses.Nodup :=
  nodup_noted.sublist (List.filter_sublist.map _)

end Answers

/-- A bus that answers the next messages with these bodies. -/
def Link.replying (bodies : List (List Value)) : Link :=
  { replies := bodies.map fun body => { delivery := .answered (.returned body) } }

namespace Controller

variable {name : String} {config : Config} {owns : Bool} {own timeout : Seconds}
  {es ms : List Move} {l : Life}

/-! ## Answers to follow -/

/-- What comes of reading known devices, one after the other. -/
def inquiries (c : Controller Client) (k : Nat) : List String → World Client → List Inquiry
  | [], _ => []
  | path :: rest, w =>
    let first := Client.deviceProperties path w
    { path, first := first.1, second := (Client.deviceProperties path first.2).1 } ::
      c.inquiries k rest (c.noteDevice k path w).2

theorem learns_inquiries (c : Controller Client) (k : Nat) (paths : List String)
    (w : World Client) : c.Learns k (c.inquiries k paths w) w := by
  induction paths generalizing w with
  | nil => trivial
  | cons path rest ih => exact ⟨rfl, fun _ => rfl, fun _ => ih _⟩

theorem map_path_inquiries (c : Controller Client) (k : Nat) (paths : List String)
    (w : World Client) : (c.inquiries k paths w).map (·.path) = paths := by
  induction paths generalizing w with
  | nil => rfl
  | cons path rest ih => exact congrArg (path :: ·) (ih _)

/-- What comes of reading the devices of some addresses, one after the other. -/
def measurements (c : Controller Client) : List String → World Client → String → Reading
  | [], _, _ => .ok []
  | address :: rest, w, a =>
    let reading := Client.deviceProperties (ObjectPath.ofDevice address c.name) w
    if a = address then reading.1 else c.measurements rest reading.2 a

theorem Measures.congr {c : Controller Client} {f g : String → Reading} {addresses : List String}
    {w : World Client} (h : c.Measures f addresses w) (hfg : ∀ a ∈ addresses, f a = g a) :
    c.Measures g addresses w := by
  induction addresses generalizing w with
  | nil => trivial
  | cons address rest ih =>
    obtain ⟨hread, hrest⟩ := h
    have ha := hfg address List.mem_cons_self
    rw [ha] at hread hrest
    exact ⟨hread, fun hf => ih (hrest hf) fun a hm => hfg a (List.mem_cons_of_mem _ hm)⟩

/-- Of addresses that are all different each is measured as it is read. -/
theorem measures_measurements (c : Controller Client) {addresses : List String}
    (h : addresses.Nodup) (w : World Client) :
    c.Measures (c.measurements addresses w) addresses w := by
  induction addresses generalizing w with
  | nil => trivial
  | cons address rest ih =>
    obtain ⟨hnot, hrest⟩ := List.nodup_cons.mp h
    refine ⟨(if_pos rfl).symm, fun _ => (ih hrest _).congr fun a ha => ?_⟩
    have hne : a ≠ address := fun he => hnot (he ▸ ha)
    exact (if_neg hne).symm

/-- A scan that comes to its wait follows answers that say how it began, what it heard and what it
read in the end. -/
theorem Follows.of_begun {c : Controller Client} {a : Answers} {s : Scan}
    (hlearned : c.Learned timeout l.world a.known)
    (hs : (c.beginScan timeout (c.during es l) l.world).1 = .ok s) (hstart : a.start = .ok ())
    (hheard : c.heard s.session es (l.after (c.enroll timeout)) ++
      c.heard s.session ms (c.begun timeout es l) = a.heard)
    (hstop : (c.giveUp s.subscription (c.run ms (c.begun timeout es l)).world).1 = a.stop)
    (hsignal : c.Measures a.signal (a.noted c.name).addresses
      (c.giveUp s.subscription (c.run ms (c.begun timeout es l)).world).2) :
    c.Follows timeout es ms l a where
  learned := hlearned
  started _ _ := by rw [hs, hstart]; rfl
  heard t ht := by
    cases hs.symm.trans ht
    exact hheard
  stopped t ht := by
    cases hs.symm.trans ht
    exact hstop
  measured t u ht hu := by
    cases hs.symm.trans ht
    rw [hu] at hsignal
    exact hsignal

/-- A scan that fails before its wait follows answers that say so, whatever they say of the rest. -/
theorem Follows.of_failed {c : Controller Client} {a : Answers} {f : Failure}
    (hlearned : c.Learned timeout l.world a.known)
    (hs : (c.beginScan timeout (c.during es l) l.world).1 = .error f)
    (hstart : ∀ v, c.noteKnown l.world.sessions.length (World.openSession timeout l.world).2 =
      (.ok (), v) → a.start = .error f) :
    c.Follows timeout es ms l a where
  learned := hlearned
  started v hv := by rw [hs, hstart v hv]; rfl
  heard t ht := by cases hs.symm.trans ht
  stopped t ht := by cases hs.symm.trans ht
  measured t u ht hu := by cases hs.symm.trans ht

/-- A scan whose listing succeeds follows some answers. -/
theorem exists_follows {paths : List String} {v : World Client}
    (h : Client.listObjects deviceInterface (World.openSession timeout l.world).2 =
      (.ok paths, v)) :
    ∃ a, (onBus name config owns).Follows timeout es ms l a := by
  let c := onBus name config owns
  let known := c.inquiries l.world.sessions.length (paths.filter (ObjectPath.isChild · name)) v
  have hlearned : c.Learned timeout l.world known :=
    ⟨paths, v, h, map_path_inquiries .., learns_inquiries ..⟩
  cases hs : (c.beginScan timeout (c.during es l) l.world).1 with
  | error f =>
    let a : Answers := { known, start := .error f, heard := [], stop := .ok (),
                         signal := fun _ => .ok [] }
    exact ⟨a, Follows.of_failed hlearned hs fun _ _ => rfl⟩
  | ok s =>
    let begun := c.begun timeout es l
    let ended := c.giveUp s.subscription (c.run ms begun).world
    -- what is noted does not depend on the signals, which are read for what is noted
    let b : Answers := { known, start := .ok (),
                         heard := c.heard s.session es (l.after (c.enroll timeout)) ++
                           c.heard s.session ms begun,
                         stop := ended.1, signal := fun _ => .ok [] }
    let a : Answers := { b with signal := c.measurements (b.noted name).addresses ended.2 }
    exact ⟨a, Follows.of_begun hlearned hs rfl rfl rfl
      (measures_measurements c Answers.nodup_noted ended.2)⟩

/-! ## What a scan finds -/

/-- A scan that answers has begun to wait. -/
theorem of_scan_ok {c : Controller Client} {early meanwhile : Action Client Unit}
    {w : World Client} {found : Roster Value}
    (h : (c.scan timeout early meanwhile w).1 = .ok found) :
    ∃ s, (c.beginScan timeout early w).1 = .ok s := by
  rcases hs : c.beginScan timeout early w with ⟨r, v⟩
  cases r with
  | error f =>
    rw [show c.scan timeout early meanwhile w = (.error f, v) from bind_error hs] at h
    cases h
  | ok s => exact ⟨s, rfl⟩

/-- A scan that has begun was told the objects. -/
theorem listObjects_of_beginScan_ok {w : World Client} {early : Action Client Unit} {s : Scan}
    (h : ((onBus name config owns).beginScan timeout early w).1 = .ok s) :
    ∃ paths u, Client.listObjects deviceInterface (World.openSession timeout w).2 =
      (.ok paths, u) := by
  obtain ⟨_, henroll, _⟩ := of_beginScan_ok (Prod.ext h rfl)
  obtain ⟨_, hnote, _⟩ := of_enroll_ok henroll
  obtain ⟨_, _, hlist, _⟩ := of_bind_ok hnote
  obtain ⟨paths, hpaths, _⟩ := of_map_ok hlist
  exact ⟨paths, _, hpaths⟩

/-- A scan found this, and these are the answers that it was told. -/
structure Finds (c : Controller Client) (timeout : Seconds) (es ms : List Move) (l : Life)
    (a : Answers) (found : Roster Value) : Prop where
  follows : c.Follows timeout es ms l a
  /-- None of the answers is a failure that ends it. -/
  unbroken : a.failures c.name = []
  answer : found = a.found c.name
  /-- Its known devices are those of the adapter among the objects that the reply lists. -/
  listed : ∃ objects rest,
    Client.Told Client.objectsMessage (.dict objects :: rest) l.world
      (Client.listObjects deviceInterface (World.openSession timeout l.world).2).2 ∧
    a.known.map (·.path) =
      (Client.objectsWith deviceInterface objects).filter (ObjectPath.isChild · c.name)
  sorted : (a.known.map (·.path)).Pairwise (· ≤ ·)
  /-- After its wait and after giving up its subscription it reads each device noted once, in order,
  and sends nothing else. -/
  measured : ∃ s u, (c.beginScan timeout (c.during es l) l.world).1 = .ok s ∧
    c.giveUp s.subscription (c.run ms (c.begun timeout es l)).world = (.ok (), u) ∧
    (c.scan timeout (c.during es l) (c.during ms (c.begun timeout es l)) l.world).2.log =
      (c.remeasured (a.noted c.name).addresses u).log
  distinct : (a.noted c.name).addresses.Nodup ∧ found.addresses.Nodup
  proper : ∀ e ∈ a.noted c.name, Roster.IsProper e

/-- What a scan on the bus finds, in every state that a controller can reach and whatever happens
once it has subscribed and while it waits.  It ends as it was told, so it answers exactly if it was
told no failure that ends it; if it answers, there is something that it was told and found; and
where it was told the properties of a device, they are those of the last reply. -/
theorem scan_finds (name : String) (config : Config) (owns : Bool) (link : Link) (own : Seconds)
    (before es ms : List Move) (timeout : Seconds) :
    let c := onBus name config owns
    let l := c.run before (.first name link own)
    let result := (c.scan timeout (c.during es l) (c.during ms (c.begun timeout es l)) l.world).1
    (∀ a, c.Follows timeout es ms l a → result = a.outcome name) ∧
    (∀ found, result = .ok found → ∃ a, c.Finds timeout es ms l a found) ∧
    ∀ (path : String) (w v : World Client) (props : Props),
      Client.deviceProperties path w = (.ok props, v) →
      ∃ entries rest, Client.Told (Client.propertiesMessage path) (.dict entries :: rest) w v ∧
        props = Props.unwrap entries := by
  have ho : Orderly name own ((onBus name config owns).run before (.first name link own)).world :=
    orderly_run link before
  dsimp only
  generalize (onBus name config owns).run before (.first name link own) = l at ho ⊢
  refine ⟨fun a ha => scan_follows ho ha, fun found h => ?_,
    fun _ _ _ _ => Client.of_deviceProperties_ok⟩
  obtain ⟨s, hs⟩ := of_scan_ok h
  obtain ⟨paths, u, hlist⟩ := listObjects_of_beginScan_ok hs
  obtain ⟨objects, rest, htold, rfl⟩ := Client.of_listObjects_ok hlist
  obtain ⟨a, ha⟩ : ∃ a, (onBus name config owns).Follows timeout es ms l a :=
    exists_follows hlist
  obtain ⟨hfailures, hfound⟩ := Answers.conclude_eq_ok ((scan_follows ho ha).symm.trans h)
  have hknown : a.known.map (·.path) =
      (Client.objectsWith deviceInterface objects).filter (ObjectPath.isChild · name) := by
    obtain ⟨paths, v, hpaths, hknown, -⟩ := ha.learned
    cases hlist.symm.trans hpaths
    exact hknown
  refine ⟨a, ha, hfailures, hfound.symm, ⟨objects, rest, ?_, hknown⟩, ?_, ?_,
    ⟨Answers.nodup_noted, hfound ▸ Answers.nodup_found⟩,
    fun e he => Answers.isProper_of_mem_noted he⟩
  · rw [hlist]
    exact htold
  · rw [hknown]
    exact (Client.sortedPaths_sorted _).filter _
  · simp only [Answers.failures, List.append_eq_nil_iff] at hfailures
    rw [scan_of_begun hs] at h ⊢
    obtain ⟨x, hx, hlog⟩ := finishScan_log (holds_waited ho ha hs) (fun x => ha.measured s x hs)
      hfailures.2.2.2 h
    exact ⟨s, x, hs, hx, hlog⟩

/-- One known device, without a name, and two that are announced, one of them before the wait; one
reports no signal. -/
theorem scan_finds_announced :
    let c := onBus "hci0" {} true
    let known := "/org/bluez/hci0/dev_AA_BB_CC_DD_EE_01"
    let first : List Value := [.dict [("Address", .text "aa:bb:cc:dd:ee:01"), ("Name", .text "")]]
    let link := Link.replying [
      [.dict [(known, .dict [(deviceInterface, .dict [])])]], first, first, [], [.bool true], [],
      [.dict [("RSSI", .int (-50))]], [.dict []], [.dict [("RSSI", .int (-60))]]]
    let announced := fun (path address : String) => Move.signal
      { body := [.text path, .dict [(deviceInterface, .dict [("Address", .text address)])]] }
    let es := [announced "/org/bluez/hci0/dev_AA_BB_CC_DD_EE_02" "AA:BB:CC:DD:EE:02"]
    let ms := [announced "/org/bluez/hci0/dev_AA_BB_CC_DD_EE_03" "AA:BB:CC:DD:EE:03"]
    let l := Life.first "hci0" link (.whole 10)
    ∃ found a,
      (c.scan (.whole 5) (c.during es l) (c.during ms (c.begun (.whole 5) es l)) l.world).1 =
        .ok found ∧
      found.addresses = ["AA:BB:CC:DD:EE:01", "AA:BB:CC:DD:EE:03"] ∧
      c.Finds (.whole 5) es ms l a found := by
  intro c known first link announced es ms l
  let result :=
    (c.scan (.whole 5) (c.during es l) (c.during ms (c.begun (.whole 5) es l)) l.world).1
  have hrun : result.toOption.map Roster.addresses =
      some ["AA:BB:CC:DD:EE:01", "AA:BB:CC:DD:EE:03"] := by decide +kernel
  obtain ⟨found, hfound, haddresses⟩ := Option.map_eq_some_iff.mp hrun
  have h : result = .ok found := eq_ok_of_toOption hfound
  obtain ⟨a, ha⟩ := (scan_finds "hci0" {} true link (.whole 10) [] es ms (.whole 5)).2.1 found h
  exact ⟨found, a, h, haddresses, ha⟩

end Controller

end BluetoothControl
