import BluetoothControl.Proofs.Controller.Found
import BluetoothControl.Proofs.Spelling

/-!
# Devices under canonical addresses

Devices are entered into rosters under canonical addresses only, whoever reports them: the objects
that the service lists, its announcements, the inquiry tool.  So the sessions of a controller on the
bus, what its scans find and what an inquiry finds have one entry for a device, however its address
was spelled (`canonical_everywhere`).
-/

namespace BluetoothControl

open Procedure

/-! ## Rosters -/

namespace Roster

variable {α : Type} {r : Roster α}

/-- The devices are entered under canonical addresses, and no two addresses spell one. -/
structure IsCanonical (r : Roster α) : Prop where
  form : ∀ a ∈ r.addresses, Address.isCanonical a.toList = true
  distinct : r.addresses.Pairwise fun a b =>
    (Address.normalize a).toOption ≠ (Address.normalize b).toOption

theorem isCanonical_of_nodup (hform : ∀ a ∈ r.addresses, Address.isCanonical a.toList = true)
    (h : r.addresses.Nodup) : r.IsCanonical where
  form := hform
  distinct := by
    refine List.Pairwise.imp_of_mem (fun {a b} ha hb hne heq => hne ?_) h
    rw [Address.normalize_of_isCanonical (hform a ha),
      Address.normalize_of_isCanonical (hform b hb)] at heq
    exact Option.some.inj heq

theorem isCanonical_nil : IsCanonical ([] : Roster α) where
  form _ h := absurd h List.not_mem_nil
  distinct := List.Pairwise.nil

namespace IsCanonical

theorem nodup (h : r.IsCanonical) : r.addresses.Nodup :=
  h.distinct.imp fun hne heq => hne (by rw [heq])

theorem sublist (h : r.IsCanonical) {s : Roster α} (hs : s.Sublist r) : s.IsCanonical :=
  isCanonical_of_nodup (fun a ha => h.form a ((hs.map _).subset ha)) (h.nodup.sublist (hs.map _))

theorem note (h : r.IsCanonical) {address : String}
    (ha : Address.isCanonical address.toList = true) (name : α) :
    (r.note address name).IsCanonical := by
  refine isCanonical_of_nodup (fun a hmem => ?_)
    (nodup_enter h.nodup (addresses_note r address name))
  rw [addresses_note] at hmem
  split at hmem
  · exact h.form a hmem
  · rcases List.mem_append.mp hmem with hmem | hmem
    · exact h.form a hmem
    · rw [List.mem_singleton.mp hmem]
      exact ha

end IsCanonical

end Roster

/-! ## The inquiry tool -/

namespace ScanReport

theorem isCanonical_of_device? {line : List Char} {e : String × String}
    (h : device? line = some e) : Address.isCanonical e.1.toList = true := by
  obtain ⟨cs, hcs, rfl⟩ := Option.map_eq_some_iff.mp h
  dsimp only
  rw [String.toList_ofList]
  exact Address.isCanonical_of_canonical? hcs

theorem isCanonical_parse (report : String) : (parse report).IsCanonical := by
  refine Roster.isCanonical_of_nodup (fun a ha => ?_) (nodup_parse report)
  obtain ⟨d, hd, rfl⟩ := List.mem_map.mp ha
  obtain ⟨line, -, hdevice⟩ := mem_parse hd
  exact isCanonical_of_device? hdevice

end ScanReport

theorem Classic.isCanonical_of_scan {adapter : String} {h i : Host} {found : Roster String}
    (hs : Classic.scan adapter h = (.ok found, i)) : found.IsCanonical := by
  obtain ⟨report, j, -, hp⟩ := of_bind_ok hs
  cases hp
  exact ScanReport.isCanonical_parse report

/-! ## Sessions -/

/-- What a session noted, and its result, are entered under canonical addresses. -/
structure DiscoverySession.IsCanonical (s : DiscoverySession) : Prop where
  devices : s.devices.IsCanonical
  result : ∀ found, s.result = some found → found.IsCanonical

namespace DiscoverySession

variable {s t : DiscoverySession}

theorem isCanonical_opened (timeout : Seconds) : IsCanonical { timeout } where
  devices := Roster.isCanonical_nil
  result _ h := by cases h

theorem IsCanonical.add (h : s.IsCanonical) {address : String}
    (ha : Address.isCanonical address.toList = true) (name : Value) :
    (s.add address name).IsCanonical where
  devices := h.devices.note ha (nameOf name)
  result := h.result

theorem IsCanonical.hear (h : s.IsCanonical) {adapter : String} {path props : Value}
    (ht : s.hear adapter path props = .ok t) : t.IsCanonical := by
  obtain rfl | ⟨e, he, rfl⟩ := eq_of_hear ht
  · exact h
  · exact h.add (isCanonical_of_announced? he) _

end DiscoverySession

/-! ## Worlds -/

/-- All sessions of a world are canonical. -/
def World.IsCanonical (w : World Client) : Prop := ∀ s ∈ w.sessions, s.IsCanonical

variable {k : Nat} {w : World Client}

theorem isCanonical_session (h : w.IsCanonical) (k : Nat) : (w.session k).IsCanonical := by
  unfold World.session
  rw [List.getD_eq_getElem?_getD]
  cases hs : w.sessions[k]? with
  | none => exact DiscoverySession.isCanonical_opened _
  | some s => exact h s (List.mem_of_getElem? hs)

theorem isCanonical_announceTo (number : Nat) (a : String) (path props : Value) :
    Keeps World.IsCanonical (World.announceTo number a path props) := by
  intro w h
  unfold World.announceTo
  rw [bind_ok (get_apply w), bind_apply, ofExcept_apply]
  cases hh : (w.session number).hear a path props with
  | error f => exact h
  | ok t => exact forall_mem_modify h fun s _ => (isCanonical_session h number).hear hh

theorem isCanonical_add {address : String} (ha : Address.isCanonical address.toList = true)
    (k : Nat) (name : Value) :
    Keeps World.IsCanonical (World.changeSession k fun s => s.add address name) := fun _ h =>
  forall_mem_modify h fun s hs => (h s (List.mem_of_getElem? hs)).add ha name

theorem isCanonical_openSession (timeout : Seconds) :
    Keeps World.IsCanonical (World.openSession timeout) := by
  intro w h s hs
  rcases List.mem_append.mp hs with hs | hs
  · exact h s hs
  · rw [List.mem_singleton.mp hs]
    exact DiscoverySession.isCanonical_opened timeout

theorem minds_isCanonical : Client.service.Minds World.IsCanonical := by
  refine Client.minds_service fun w v hv h => ?_
  obtain ⟨c, es, rfl, -⟩ := hv
  exact h

theorem steady_isCanonical (adapter : String) : Steady adapter World.IsCanonical where
  observe _ _ _ h := h
  wakeAll _ h := h
  handOut _ _ _ _ h := h
  onHost _ _ _ _ h := h

theorem calm_isCanonical : Calm World.IsCanonical where
  changeLink _ _ h := h
  kill _ h := h

theorem isCanonical_signal (s : Signal) : Keeps World.IsCanonical (Client.signal s) :=
  Client.keeps_signal (fun _ _ _ h => h) isCanonical_announceTo (fun _ h => h) s

theorem isCanonical_subscribe (s : Subscriber) :
    Keeps World.IsCanonical (Client.service.subscribe s) := by
  refine keeps_map _ (keeps_bind (fun w h => ?_) fun _ => keeps_pure _)
  obtain ⟨c, es, hv, -⟩ :=
    Client.within_subscribe (A := (· = s)) (s := s) rfl w (Client.within_refl w)
  rw [hv]
  exact h

/-! ## Moves -/

namespace Controller

variable {name : String} {config : Config} {owns : Bool}

/-- What is visible are some of the devices, in their order. -/
theorem sublist_visible {κ : Type} {c : Controller κ} {r found : Roster Value} {w v : World κ}
    (h : c.visible r w = (.ok found, v)) : found.Sublist r := by
  induction r generalizing found w v with
  | nil =>
    cases h
    exact List.Sublist.refl _
  | cons e rest ih =>
    obtain ⟨strength, u, -, h⟩ := of_bind_ok h
    obtain ⟨others, x, hothers, h⟩ := of_bind_ok h
    have hrest := ih hothers
    cases h
    split
    · exact hrest.cons e
    · exact hrest.cons_cons e

/-- A scan that goes on after its wait finds devices under canonical addresses and leaves them
so. -/
theorem finishScan_canonical (s : Scan) (h : w.IsCanonical) :
    ((onBus name config owns).finishScan s w).2.IsCanonical ∧
      ∀ found v, (onBus name config owns).finishScan s w = (.ok found, v) →
        found.IsCanonical := by
  -- The end of a scan is a withdrawal, the look at what is visible, and the result; the first two
  -- can fail, and then there is no third.
  have hgive := keeps_giveUp (c := onBus name config owns) minds_isCanonical.unchecked
    s.subscription w h
  rcases hg : (onBus name config owns).giveUp s.subscription w with ⟨r, u⟩
  rw [hg] at hgive
  cases r with
  | error f =>
    rw [show (onBus name config owns).finishScan s w = (.error f, u) from bind_error hg]
    exact ⟨hgive, fun found v hf => by cases hf⟩
  | ok _ =>
    have hsession := isCanonical_session hgive s.session
    have hkeep := keeps_visible (c := onBus name config owns) minds_isCanonical.reads
      (u.session s.session).devices u hgive
    rw [show (onBus name config owns).finishScan s w =
      ((onBus name config owns).visible (u.session s.session).devices >>= fun found => do
        World.changeSession s.session fun t => { t with result := some found }
        return found) u from bind_ok hg]
    rcases hv : (onBus name config owns).visible (u.session s.session).devices u with ⟨r, x⟩
    rw [hv] at hkeep
    cases r with
    | error f =>
      rw [bind_error hv]
      exact ⟨hkeep, fun found v hf => by cases hf⟩
    | ok found =>
      have hfound := hsession.devices.sublist (sublist_visible hv)
      rw [bind_ok hv]
      refine ⟨forall_mem_modify hkeep fun t ht => ?_, fun _ _ hf => ?_⟩
      · exact { devices := (hkeep t (List.mem_of_getElem? ht)).devices
                result := fun _ hr => Option.some.inj hr ▸ hfound }
      · cases hf
        exact hfound

theorem canonical_enroll (timeout : Seconds) :
    Keeps World.IsCanonical ((onBus name config owns).enroll timeout) :=
  keeps_enroll (c := onBus name config owns) minds_isCanonical.reads isCanonical_openSession
    (fun k _ n ha => isCanonical_add ha k n) (fun _ => isCanonical_subscribe _) timeout

theorem canonical_beginScan {early : Action Client Unit} (he : Keeps World.IsCanonical early)
    (timeout : Seconds) :
    Keeps World.IsCanonical ((onBus name config owns).beginScan timeout early) :=
  keeps_beginScan canonical_enroll (keeps_embark (c := onBus name config owns)
    minds_isCanonical.unchecked (keeps_startDiscovery minds_isCanonical) (steady_isCanonical _))
    he timeout

theorem canonical_act {m : Move} {l : Life} (h : l.world.IsCanonical) :
    ((onBus name config owns).act l m).world.IsCanonical :=
  keeps_act (c := onBus name config owns) minds_isCanonical.unchecked
    (checked_of_minds minds_isCanonical (steady_isCanonical _)) (steady_isCanonical _)
    calm_isCanonical canonical_enroll (fun s _ h => (finishScan_canonical s h).1)
    (keeps_close (c := onBus name config owns)
      (checked_of_minds minds_isCanonical (steady_isCanonical _)) minds_isCanonical.close
      (fun _ h => h) fun _ _ h => h)
    (fun s _ => isCanonical_signal s) h

theorem canonical_run {l : Life} (h : l.world.IsCanonical) (ms : List Move) :
    ((onBus name config owns).run ms l).world.IsCanonical :=
  keeps_run (fun h => canonical_act h) h ms

/-- What happens between the parts of a scan leaves the sessions canonical. -/
theorem canonical_during (ms : List Move) (l : Life) :
    Keeps World.IsCanonical ((onBus name config owns).during ms l) := fun w hw =>
  canonical_run (l := { l with world := w }) hw ms

/-- A scan finds devices under canonical addresses, if what happens between its parts leaves the
sessions canonical. -/
theorem canonical_of_scan {timeout : Seconds} {early meanwhile : Action Client Unit}
    (he : Keeps World.IsCanonical early) (hm : Keeps World.IsCanonical meanwhile)
    (h : w.IsCanonical) {found : Roster Value} {v : World Client}
    (hs : (onBus name config owns).scan timeout early meanwhile w = (.ok found, v)) :
    found.IsCanonical := by
  obtain ⟨s, u, hbegin, hrest⟩ := of_bind_ok hs
  have hu : ((onBus name config owns).beginScan timeout early w).2.IsCanonical :=
    canonical_beginScan he timeout w h
  rw [hbegin] at hu
  obtain ⟨_, x, hmean, hfinish⟩ := of_bind_ok hrest
  have hx := hm u hu
  rw [show (meanwhile u).2 = x from congrArg Prod.snd hmean] at hx
  exact (finishScan_canonical s hx).2 found v hfinish

/-- Whatever text is accepted as an address is accepted as a canonical one, which spells itself, and
blanks around a text and the case of its letters make no difference.  Therefore, after every run of
a controller, the sessions have their devices under canonical addresses, each under one, and so have
the results of scans, whatever happens while they wait, and, on every host, those of inquiries. -/
theorem canonical_everywhere (name : String) (config : Config) (owns : Bool) (link : Link)
    (own : Seconds) (ms : List Move) :
    let c := onBus name config owns
    let l := c.run ms (.first name link own)
    (∀ x y, Address.normalize x = .ok y →
      Address.isCanonical y.toList = true ∧ y.toList.length = 17 ∧ Address.normalize y = .ok y) ∧
    (∀ (x : String) (before core after : List Char), (∀ d ∈ before, Text.isBlank d = true) →
      (∀ d ∈ after, Text.isBlank d = true) → core.map Char.toLower = x.toList.map Char.toLower →
      (Address.normalize (String.ofList (before ++ core ++ after))).toOption =
        (Address.normalize x).toOption) ∧
    (∀ s ∈ l.world.sessions, s.IsCanonical) ∧
    (∀ timeout es ms k k' found v,
      c.scan timeout (c.during es k) (c.during ms k') l.world = (.ok found, v) →
      found.IsCanonical) ∧
    (∀ s found v, c.finishScan s l.world = (.ok found, v) → found.IsCanonical) ∧
    (∀ (w : World Client) found v, c.inquire w = (.ok found, v) → found.IsCanonical) := by
  intro c l
  have hl : l.world.IsCanonical :=
    canonical_run (l := .first name link own) (fun s hs => absurd hs List.not_mem_nil) ms
  refine ⟨fun x y h => ?_, fun x before core after hb ha hcore => ?_, hl,
    fun timeout es ms k k' found v h => ?_, fun s => (finishScan_canonical s hl).2,
    fun w found v h => ?_⟩
  · have hy := Address.isCanonical_of_normalize h
    exact ⟨hy, Address.length_of_isCanonical hy, Address.normalize_of_isCanonical hy⟩
  · exact Address.normalize_of_alike (Address.alike_of_surrounded hb ha hcore)
  · exact canonical_of_scan (canonical_during es k) (canonical_during ms k') hl h
  · rcases hscan : Classic.scan name w.host with ⟨r, i⟩
    have hr : (c.inquire w).1 = r := congrArg Prod.fst hscan
    rw [h] at hr
    exact Classic.isCanonical_of_scan (hr ▸ hscan)

/-- A device that is announced under two spellings is found once. -/
theorem canonical_everywhere_respelled :
    let c := onBus "hci0" {} true
    let link := Link.replying [[.dict []], [], [.bool true], [], [.dict [("RSSI", .int (-50))]]]
    let announced := fun address : String => Move.signal
      { body := [.text "/org/bluez/hci0/dev_AA_BB_CC_DD_EE_01",
          .dict [(deviceInterface, .dict [("Address", .text address)])]] }
    let ms := [announced " aa:bb:cc:dd:ee:01", announced "AA:bb:CC:dd:EE:01\n"]
    let l := Life.first "hci0" link (.whole 10)
    (Address.normalize (String.ofList ([' '] ++ "AA:bb:CC:dd:EE:01".toList ++ ['\n']))).toOption =
        (Address.normalize "aa:bb:cc:dd:ee:01").toOption ∧
      ∃ found,
        (c.scan (.whole 5) (c.during [] l) (c.during ms (c.begun (.whole 5) [] l)) l.world).1 =
          .ok found ∧
        found.addresses = ["AA:BB:CC:DD:EE:01"] ∧ found.IsCanonical := by
  intro c link announced ms l
  have hall := canonical_everywhere "hci0" {} true link (.whole 10) []
  let result :=
    (c.scan (.whole 5) (c.during [] l) (c.during ms (c.begun (.whole 5) [] l)) l.world).1
  have hrun : result.toOption.map Roster.addresses = some ["AA:BB:CC:DD:EE:01"] := by
    decide +kernel
  obtain ⟨found, hfound, haddresses⟩ := Option.map_eq_some_iff.mp hrun
  have h : result = .ok found := eq_ok_of_toOption hfound
  have hblanks : (∀ d ∈ [' '], Text.isBlank d = true) ∧ ∀ d ∈ ['\n'], Text.isBlank d = true :=
    ⟨List.forall_mem_singleton.mpr rfl, List.forall_mem_singleton.mpr rfl⟩
  refine ⟨hall.2.1 "aa:bb:cc:dd:ee:01" [' '] "AA:bb:CC:dd:EE:01".toList ['\n'] hblanks.1
    hblanks.2 (by decide +kernel), found, h, haddresses, ?_⟩
  exact hall.2.2.2.1 (.whole 5) [] ms l (c.begun (.whole 5) [] l) found _ (Prod.ext h rfl)

end Controller

end BluetoothControl
