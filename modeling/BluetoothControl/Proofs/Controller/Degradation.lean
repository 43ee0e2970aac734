import Mathlib.Data.List.Basic
import BluetoothControl.Proofs.Controller.Contract
import BluetoothControl.Proofs.Controller.Found

/-!
# One device less

Two scans are compared that are told the same, except that one of the known devices is there for the
first and not for the second.  What they find besides it is the same as long as what comes of
reading it is contained, and a reading is contained exactly if the replies to it are legible
(`scan_degrades_iff_contained`).
-/

namespace BluetoothControl

open Procedure

/-- The devices besides those with some addresses. -/
def Roster.besides {α : Type} (mine : String → Bool) (r : Roster α) : Roster α :=
  r.filter fun e => !mine e.1

theorem Inquiry.address?_of_device? {i : Inquiry} {e : String × Value} (h : i.device? = some e) :
    i.first.address? = some e.1 := by
  unfold Inquiry.device? at h
  split at h
  · next ha _ =>
    cases h
    exact ha
  · cases h

/-- An inquiry ends no scan exactly if neither of its readings does. -/
theorem Inquiry.failure?_eq_none {i : Inquiry} : i.failure? = none ↔
    i.first.failure? excuses = none ∧
      (i.first.address? ≠ none → i.second.failure? excuses = none) := by
  unfold Inquiry.failure?
  cases ha : i.first.address? with
  | none => simp
  | some x =>
    have hfirst : i.first.failure? excuses = none := by
      cases hf : i.first with
      | ok props => rfl
      | error f =>
        rw [hf] at ha
        cases ha
    simp [hfirst]

namespace Answers

/-- A second scan is told what a first one is, but lacks one of the known devices, which has these
addresses: the one that it reports and any others that belong to it. -/
structure Lacks (mine : String → Bool) (i : Inquiry) (a b : Answers) : Prop where
  known : ∃ before after, a.known = before ++ i :: after ∧ b.known = before ++ after
  reported : ∀ x, i.first.address? = some x → mine x = true
  start : b.start = a.start
  heard : b.heard = a.heard
  stop : b.stop = a.stop
  signal : ∀ x, mine x = false → b.signal x = a.signal x

/-- The signals that are read of some addresses do not end the scan. -/
def Quiet (mine : String → Bool) (adapter : String) (a : Answers) : Prop :=
  ∀ x ∈ (a.noted adapter).addresses, mine x = true → (a.signal x).failure? (·.isA .service) = none

/-- No reading of a known device ends the scan: neither that for its address nor, if it told one,
that for its name, nor any for its signal. -/
structure Contains (mine : String → Bool) (i : Inquiry) (adapter : String) (a : Answers) :
    Prop where
  first : i.first.failure? Inquiry.excuses = none
  second : i.first.address? ≠ none → i.second.failure? Inquiry.excuses = none
  signal : a.Quiet mine adapter

variable {mine : String → Bool} {i : Inquiry} {a b : Answers} {adapter : String}

theorem Lacks.besides_entries (h : a.Lacks mine i b) :
    (a.entries adapter).besides mine = (b.entries adapter).besides mine := by
  obtain ⟨before, after, ha, hb⟩ := h.known
  have hi : ([i].filterMap Inquiry.device?).filter (fun e => !mine e.1) = [] := by
    cases he : i.device? with
    | none => simp [he]
    | some e => simp [he, h.reported e.1 (Inquiry.address?_of_device? he)]
  unfold Roster.besides entries
  rw [ha, hb, h.heard, List.append_cons]
  simp only [List.filterMap_append, List.filter_append, hi, List.append_nil]

/-- What is noted besides the device is the same. -/
theorem Lacks.besides_noted (h : a.Lacks mine i b) :
    (a.noted adapter).besides mine = (b.noted adapter).besides mine := by
  have he : (a.entries adapter).besides mine = (b.entries adapter).besides mine := h.besides_entries
  unfold Roster.besides at he ⊢
  unfold noted
  rw [← Roster.firsts_filter fun x => !mine x, ← Roster.firsts_filter fun x => !mine x, he]

theorem Lacks.signal_of_mem_besides (h : a.Lacks mine i b) {r : Roster Value}
    {e : String × Value} (he : e ∈ r.besides mine) : b.signal e.1 = a.signal e.1 :=
  h.signal e.1 (by simpa using (List.mem_filter.mp he).2)

/-- What is found besides the device is the same. -/
theorem Lacks.besides_found (h : a.Lacks mine i b) :
    (a.found adapter).besides mine = (b.found adapter).besides mine := by
  have hsignal : ((b.noted adapter).besides mine).filter (fun e => (a.signal e.1).hasSignal) =
      ((b.noted adapter).besides mine).filter fun e => (b.signal e.1).hasSignal := by
    refine List.filter_congr fun e he => ?_
    rw [h.signal_of_mem_besides he]
  rw [← h.besides_noted] at hsignal
  have hcomm : ∀ c : Answers, (c.found adapter).besides mine =
      ((c.noted adapter).besides mine).filter fun e => (c.signal e.1).hasSignal := by
    intro c
    unfold found Roster.besides
    rw [List.filter_filter, List.filter_filter]
    simp only [Bool.and_comm]
  rw [hcomm a, hcomm b, hsignal, h.besides_noted]

/-- A device whose readings end no scan adds nothing to their failures. -/
theorem Quiet.silences_eq (h : a.Quiet mine adapter) : a.silences adapter =
    ((a.noted adapter).besides mine).filterMap fun e =>
      (a.signal e.1).failure? (·.isA .service) := by
  unfold silences Roster.besides
  rw [List.filterMap_filter]
  refine List.filterMap_congr fun e he => ?_
  cases hm : mine e.1 with
  | true => rw [h e.1 (List.mem_map.mpr ⟨e, he, rfl⟩) hm]; rfl
  | false => rfl

theorem Lacks.silences_eq (h : a.Lacks mine i b) :
    (((a.noted adapter).besides mine).filterMap fun e =>
      (a.signal e.1).failure? (·.isA .service)) =
    ((b.noted adapter).besides mine).filterMap fun e =>
      (b.signal e.1).failure? (·.isA .service) := by
  rw [h.besides_noted]
  refine List.filterMap_congr fun e he => ?_
  rw [h.signal_of_mem_besides he]

/-- A device whose readings are contained, in both scans, makes no difference to what ends them. -/
theorem Lacks.failures_eq (h : a.Lacks mine i b) (hi : i.failure? = none)
    (ha : a.Quiet mine adapter) (hb : b.Quiet mine adapter) :
    a.failures adapter = b.failures adapter := by
  obtain ⟨before, after, hka, hkb⟩ := h.known
  unfold failures
  rw [ha.silences_eq, hb.silences_eq, h.silences_eq, h.start, h.stop, hka, hkb,
    List.filterMap_append, List.filterMap_cons_none hi, List.filterMap_append]

theorem quiet_of_failures_eq_nil (h : a.failures adapter = []) : a.Quiet mine adapter := by
  intro x hx _
  simp only [failures, List.append_eq_nil_iff] at h
  obtain ⟨e, he, rfl⟩ := List.mem_map.mp hx
  exact List.filterMap_eq_nil_iff.mp h.2.2.2 e he

/-- A scan that lacks the device and is not ended is not ended with it either, exactly if the
readings of the device are contained. -/
theorem Lacks.failures_eq_nil (h : a.Lacks mine i b) (hb : b.failures adapter = []) :
    a.failures adapter = [] ↔ a.Contains mine i adapter := by
  constructor
  · intro ha
    obtain ⟨before, after, hka, -⟩ := h.known
    have hquiet : a.Quiet mine adapter := quiet_of_failures_eq_nil ha
    simp only [failures, List.append_eq_nil_iff, List.filterMap_eq_nil_iff] at ha
    obtain ⟨hfirst, hsecond⟩ := Inquiry.failure?_eq_none.mp (ha.1 i (hka ▸ by simp))
    exact ⟨hfirst, hsecond, hquiet⟩
  · rintro ⟨hfirst, hsecond, hquiet⟩
    have hi : i.failure? = none := Inquiry.failure?_eq_none.mpr ⟨hfirst, hsecond⟩
    rw [h.failures_eq hi hquiet (quiet_of_failures_eq_nil hb), hb]

/-- A scan that lacks a device finds what the scan with it finds besides it, or ends the same way,
if the readings of the device are contained. -/
theorem Lacks.outcome_besides (h : a.Lacks mine i b) (ha : a.Contains mine i adapter)
    (hb : b.Quiet mine adapter) : (a.outcome adapter).map (Roster.besides mine) =
      (b.outcome adapter).map (Roster.besides mine) := by
  have hi : i.failure? = none := Inquiry.failure?_eq_none.mpr ⟨ha.first, ha.second⟩
  have hmap : ∀ (fs : List Failure) (r : Roster Value),
      (conclude fs r).map (Roster.besides mine) = conclude fs (r.besides mine) := by
    intro fs r
    cases fs <;> rfl
  unfold outcome
  rw [hmap, hmap, h.failures_eq hi ha.signal hb, h.besides_found]

/-- If the scan that lacks the device answers, the scan with it finds the same besides it exactly if
the readings of the device are contained. -/
theorem Lacks.finds_iff (h : a.Lacks mine i b) {found : Roster Value}
    (hb : b.outcome adapter = .ok found) :
    (∃ all, a.outcome adapter = .ok all ∧ all.besides mine = found.besides mine) ↔
      a.Contains mine i adapter := by
  obtain ⟨hbf, rfl⟩ := conclude_eq_ok hb
  rw [← h.failures_eq_nil hbf]
  constructor
  · rintro ⟨all, hall, -⟩
    exact (conclude_eq_ok hall).1
  · intro hf
    refine ⟨a.found adapter, ?_, h.besides_found⟩
    unfold outcome
    rw [hf]
    rfl

end Answers

/-! ## Contained readings -/

/-- A reading whose failures are explained ends no scan exactly if the replies were legible. -/
theorem Reading.failure?_eq_none_iff {taken : Failure → Bool} {r : Reading} {es : List Event}
    (h : Explained (·.isA .service = true) (·.isMisreading = true) es r)
    (hs : ∀ f : Failure, f.isA .service = true → taken f = true)
    (hm : ∀ f : Failure, f.isMisreading = true → taken f = false) :
    r.failure? taken = none ↔ Legible es := by
  cases r with
  | ok props => exact ⟨fun _ => h, fun _ => rfl⟩
  | error f =>
    unfold Reading.failure?
    rcases h with ⟨hf, hes⟩ | ⟨hf, hes⟩
    · simp [hs f hf, hes]
    · simp [hm f hf, hes]

/-- A device is read without ending a scan, while its known devices are noted or when it is over,
exactly if the replies that come are legible. -/
theorem Client.contained_iff_legible {path : String} {w : World Client}
    (ho : w.service.callTimeout.isWaitable = true) (hp : ObjectPath.isValid path = true) :
    ∃ es, (deviceProperties path w).2.log = w.log ++ es ∧
      (Reading.failure? Inquiry.excuses (deviceProperties path w).1 = none ↔ Legible es) ∧
      (Reading.failure? (·.isA .service) (deviceProperties path w).1 = none ↔ Legible es) := by
  obtain ⟨es, hl, hr⟩ := accountable_deviceProperties ho hp w rfl
  refine ⟨es, hl, Reading.failure?_eq_none_iff hr (fun f hf => ?_) (fun f hf => ?_),
    Reading.failure?_eq_none_iff hr (fun f hf => hf) (fun f hf => ?_)⟩
  · exact Bool.or_eq_true_iff.mpr (Or.inl hf)
  · unfold Inquiry.excuses
    rw [Failure.isA_of_isMisreading hf (by decide), Failure.isA_of_isMisreading hf (by decide)]
    rfl
  · exact Failure.isA_of_isMisreading hf (by decide)

/-! ## Two scans -/

namespace Controller

/-- Two scans on buses, in every state that a controller can reach and whatever happens once they
have subscribed and while they wait, which are told the same except that the second lacks one of the
known devices.  If what comes of reading the device is contained, they find the same besides it, or
end in the same failure.  If the second scan answers, the first finds the same besides the device
exactly if it is contained. And what comes of reading a device is contained, at every one of its
readings, exactly if the replies that come are legible. -/
theorem scan_degrades_iff_contained (name : String) (config : Config) (owns : Bool)
    (own timeout : Seconds) (link link' : Link) (before before' es es' ms ms' : List Move)
    {a b : Answers} {mine : String → Bool} {i : Inquiry}
    (ha : let c := onBus name config owns
      c.Follows timeout es ms (c.run before (.first name link own)) a)
    (hb : let c := onBus name config owns
      c.Follows timeout es' ms' (c.run before' (.first name link' own)) b)
    (hab : a.Lacks mine i b) :
    let c := onBus name config owns
    let l := c.run before (.first name link own)
    let l' := c.run before' (.first name link' own)
    let full := (c.scan timeout (c.during es l) (c.during ms (c.begun timeout es l)) l.world).1
    let reduced :=
      (c.scan timeout (c.during es' l') (c.during ms' (c.begun timeout es' l')) l'.world).1
    (a.Contains mine i name → b.Quiet mine name →
      full.map (Roster.besides mine) = reduced.map (Roster.besides mine)) ∧
    (∀ found, reduced = .ok found →
      ((∃ all, full = .ok all ∧ all.besides mine = found.besides mine) ↔
        a.Contains mine i name)) ∧
    ∀ (w : World Client) (path : String), w.service.callTimeout.isWaitable = true →
      ObjectPath.isValid path = true → ∃ es,
        (Client.deviceProperties path w).2.log = w.log ++ es ∧
        (Reading.failure? Inquiry.excuses (Client.deviceProperties path w).1 = none ↔ Legible es) ∧
        (Reading.failure? (·.isA .service) (Client.deviceProperties path w).1 = none ↔
          Legible es) := by
  intro c l l' full reduced
  have hfull : full = a.outcome name := scan_follows (orderly_run link before) ha
  have hreduced : reduced = b.outcome name := scan_follows (orderly_run link' before') hb
  rw [hfull, hreduced]
  exact ⟨fun hc hq => hab.outcome_besides hc hq, fun found hf => hab.finds_iff hf,
    fun w path ho hp => Client.contained_iff_legible ho hp⟩

/-! ## One device, and none -/

namespace Lone

/-- A controller that has done nothing yet, on a bus. -/
def controller : Controller Client := onBus "hci0" {} true

def fresh (link : Link) : Life := .first "hci0" link (.whole 10)

def device : String := "/org/bluez/hci0/dev_AA_BB_CC_DD_EE_01"

def isDevice (address : String) : Bool := address == "AA:BB:CC:DD:EE:01"

/-- A bus that lists one device, gives this when the device is read, and lets a scan go on. -/
def knowing (reading : Delivery) : Link :=
  { replies := [{ delivery := .answered (.returned
        [.dict [(device, .dict [(deviceInterface, .dict [])])]]) }, { delivery := reading }] ++
      (Link.replying [[], [.bool true], []]).replies }

/-- A bus that lists no device and lets a scan go on. -/
def knowingNone : Link := .replying [[.dict []], [], [.bool true], []]

/-- What a scan asks of the one device, if it tells no address. -/
def asked (reading : Delivery) : Inquiry :=
  let listed := Client.listObjects deviceInterface
    (World.openSession (.whole 5) (fresh (knowing reading)).world).2
  { path := device, first := (Client.deviceProperties device listed.2).1, second := .ok [] }

/-- Answers that tell of these known devices and nothing else. -/
def telling (known : List Inquiry) : Answers :=
  { known, start := .ok (), heard := [], stop := .ok (), signal := fun _ => .ok [] }

theorem learned_knowing {reading : Delivery} (h : (asked reading).first.address? = none) :
    controller.Learned (.whole 5) (fresh (knowing reading)).world [asked reading] := by
  have hsort : Client.sortedPaths [device] = [device] := List.mergeSort_singleton _
  have hlist : (Client.listObjects deviceInterface
      (World.openSession (.whole 5) (fresh (knowing reading)).world).2).1 = .ok [device] := by
    rw [← hsort]
    rfl
  have hchild : [device].filter (ObjectPath.isChild · "hci0") = [device] := by decide +kernel
  exact ⟨[device], _, Prod.ext hlist rfl, hchild.symm, rfl, fun hn => absurd h hn, fun _ => trivial⟩

theorem learned_knowingNone : controller.Learned (.whole 5) (fresh knowingNone).world [] := by
  have hsort : Client.sortedPaths [] = [] := List.mergeSort_nil
  have hlist : (Client.listObjects deviceInterface
      (World.openSession (.whole 5) (fresh knowingNone).world).2).1 = .ok [] := by
    rw [← hsort]
    rfl
  exact ⟨[], _, Prod.ext hlist rfl, rfl, trivial⟩

theorem noted_telling {reading : Delivery} (h : (asked reading).first.address? = none) :
    (telling [asked reading]).noted "hci0" = [] := by
  have he : (asked reading).device? = none := by
    unfold Inquiry.device?
    rw [h]
  show Roster.firsts ([asked reading].filterMap Inquiry.device? ++ []) = []
  rw [List.filterMap_cons_none he]
  rfl

theorem lacks_telling {reading : Delivery} (h : (asked reading).first.address? = none) :
    (telling [asked reading]).Lacks isDevice (asked reading) (telling []) where
  known := ⟨[], [], rfl, rfl⟩
  reported x hx := by rw [h] at hx; cases hx
  start := rfl
  heard := rfl
  stop := rfl
  signal _ _ := rfl

/-- A scan follows such answers if it notes no device and comes to its end. -/
theorem follows_telling {link : Link} {known : List Inquiry}
    (hlearned : controller.Learned (.whole 5) (fresh link).world known)
    (hnoted : (telling known).noted "hci0" = [])
    (h : ((controller.beginScan (.whole 5) (controller.during [] (fresh link)) >>= fun s =>
      controller.giveUp s.subscription) (fresh link).world).1.isOk = true) :
    controller.Follows (.whole 5) [] [] (fresh link) (telling known) := by
  rcases hend : (controller.beginScan (.whole 5) (controller.during [] (fresh link)) >>= fun s =>
    controller.giveUp s.subscription) (fresh link).world with ⟨r, v⟩
  rw [hend] at h
  obtain ⟨u, rfl⟩ : ∃ u, r = .ok u := by
    cases r with
    | error f => cases h
    | ok u => exact ⟨u, rfl⟩
  obtain ⟨s, w, hs, hg⟩ := of_bind_ok hend
  obtain rfl : (controller.begun (.whole 5) [] (fresh link)).world = w := congrArg Prod.snd hs
  refine Follows.of_begun hlearned (congrArg Prod.fst hs) rfl rfl (congrArg Prod.fst hg) ?_
  show controller.Measures _ (Roster.addresses ((telling known).noted "hci0")) _
  rw [hnoted]
  trivial

/-- A scan follows such answers if it fails over its known devices. -/
theorem follows_telling_of_failed {link : Link} {known : List Inquiry}
    (hlearned : controller.Learned (.whole 5) (fresh link).world known)
    (hnote : (controller.noteKnown 0
      (World.openSession (.whole 5) (fresh link).world).2).1.isOk = false)
    (hbegin : (controller.beginScan (.whole 5) (controller.during [] (fresh link))
      (fresh link).world).1.isOk = false) :
    controller.Follows (.whole 5) [] [] (fresh link) (telling known) := by
  cases hs : (controller.beginScan (.whole 5) (controller.during [] (fresh link))
      (fresh link).world).1 with
  | ok s =>
    rw [hs] at hbegin
    cases hbegin
  | error f =>
    refine Follows.of_failed hlearned hs fun v hv => ?_
    change controller.noteKnown 0 (World.openSession (.whole 5) (fresh link).world).2 = _ at hv
    rw [hv] at hnote
    cases hnote

/-- A scan that nothing happens to, on a bus. -/
def undisturbed (link : Link) : Except Failure (Roster Value) :=
  (controller.scan (.whole 5) (controller.during [] (fresh link))
    (controller.during [] (controller.begun (.whole 5) [] (fresh link))) (fresh link).world).1

end Lone

open Lone in
/-- A scan whose only known device refuses to be read finds what a scan without it finds. -/
theorem scan_degrades_iff_contained_refused :
    let refusal : Delivery := .answered (.refused { name := some "org.bluez.Error.Failed" })
    let a := telling [asked refusal]
    controller.Follows (.whole 5) [] [] (fresh (knowing refusal)) a ∧
    controller.Follows (.whole 5) [] [] (fresh knowingNone) (telling []) ∧
    a.Lacks isDevice (asked refusal) (telling []) ∧ a.Contains isDevice (asked refusal) "hci0" ∧
    (undisturbed (knowing refusal)).map (Roster.besides isDevice) =
      (undisturbed knowingNone).map (Roster.besides isDevice) := by
  intro refusal a
  have haddress : (asked refusal).first.address? = none := by decide +kernel
  have hfirst : ((asked refusal).first.failure? Inquiry.excuses).isNone = true := by decide +kernel
  have hnoted := noted_telling haddress
  have ha : controller.Follows (.whole 5) [] [] (fresh (knowing refusal)) a :=
    follows_telling (learned_knowing haddress) hnoted (by decide +kernel)
  have hb : controller.Follows (.whole 5) [] [] (fresh knowingNone) (telling []) :=
    follows_telling learned_knowingNone rfl (by decide +kernel)
  have hab := lacks_telling haddress
  have hc : a.Contains isDevice (asked refusal) "hci0" :=
    ⟨Option.isNone_iff_eq_none.mp hfirst, fun hn => absurd haddress hn,
      fun x hx => by rw [hnoted] at hx; cases hx⟩
  exact ⟨ha, hb, hab, hc, (scan_degrades_iff_contained "hci0" {} true (.whole 10) (.whole 5)
    (knowing refusal) knowingNone [] [] [] [] [] [] ha hb hab).1 hc fun x hx => by cases hx⟩

open Lone in
/-- A scan does not always degrade device by device: a reply without a body to the reading of its
only known device ends it, which without the device finds nothing and answers. -/
theorem not_degrades_emptyBody :
    ¬ ∀ (link link' : Link) (a b : Answers) (mine : String → Bool) (i : Inquiry),
      controller.Follows (.whole 5) [] [] (fresh link) a →
      controller.Follows (.whole 5) [] [] (fresh link') b → a.Lacks mine i b →
      ∀ found, undisturbed link' = .ok found →
        ∃ all, undisturbed link = .ok all ∧ all.besides mine = found.besides mine := by
  intro h
  let empty : Delivery := .answered (.returned [])
  have haddress : (asked empty).first.address? = none := by decide +kernel
  have hfull : (undisturbed (knowing empty)).isOk = false := by decide +kernel
  have hreduced : (undisturbed knowingNone).toOption.map Roster.addresses = some [] := by
    decide +kernel
  have ha : controller.Follows (.whole 5) [] [] (fresh (knowing empty)) (telling [asked empty]) :=
    follows_telling_of_failed (learned_knowing haddress) (by decide +kernel) (by decide +kernel)
  have hb : controller.Follows (.whole 5) [] [] (fresh knowingNone) (telling []) :=
    follows_telling learned_knowingNone rfl (by decide +kernel)
  obtain ⟨found, hfound, -⟩ := Option.map_eq_some_iff.mp hreduced
  obtain ⟨all, hall, -⟩ := h _ _ _ _ _ _ ha hb (lacks_telling haddress) found
    (eq_ok_of_toOption hfound)
  rw [hall] at hfull
  cases hfull

end Controller

end BluetoothControl
