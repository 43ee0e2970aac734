import BluetoothControl.Lookup
import BluetoothControl.Proofs.Procedure
import BluetoothControl.Registry.Run

/-!
# The controllers a registry keeps

Whatever happens to a registry, every controller that was ever built for it and is open is the one
that the registry keeps under its name (`Consistent.sole`): a lookup builds one only where none is
open, and a registry that is closed closes what it forgets.
-/

namespace BluetoothControl

open Procedure

variable {σ : Type} {w : Workshop σ} {fit : σ → Prop} {made : σ → List String}

namespace Registry

variable {r : Registry σ} {name : String} {number : Nat}

/-! ## Entries -/

theorem any_iff_mem_names : r.entries.any (·.1 == name) = true ↔ name ∈ r.entries.map (·.1) := by
  simp

theorem mem_names_keep {other : String} :
    other ∈ (keep name number r).entries.map (·.1) ↔
      other = name ∨ other ∈ r.entries.map (·.1) := by
  rw [names_keep]
  split
  · next h =>
    rw [any_iff_mem_names] at h
    constructor
    · exact Or.inr
    · rintro (rfl | ho)
      · exact h
      · exact ho
  · rw [List.mem_append, List.mem_singleton, or_comm]

theorem nodup_names_keep (h : (r.entries.map (·.1)).Nodup) :
    ((keep name number r).entries.map (·.1)).Nodup := by
  rw [names_keep]
  split
  · exact h
  · next hn =>
    rw [any_iff_mem_names] at hn
    refine List.nodup_append.mpr ⟨h, List.pairwise_singleton _ name, fun a ha b hb hab => hn ?_⟩
    rw [← List.mem_singleton.mp hb, ← hab]
    exact ha

/-- A controller that is kept takes the place of the one under its name. -/
theorem mem_entries_keep {e : String × Nat} : e ∈ (keep name number r).entries ↔
    e = (name, number) ∨ e ∈ r.entries ∧ e.1 ≠ name := by
  unfold keep
  split
  · next h =>
    obtain ⟨d, hd, hname⟩ := List.any_eq_true.mp h
    constructor
    · intro he
      obtain ⟨x, hx, rfl⟩ := List.mem_map.mp he
      by_cases hn : x.1 = name
      · exact Or.inl (by simp [hn])
      · exact Or.inr (by simp [hn, hx])
    · rintro (rfl | ⟨he, hn⟩)
      · exact List.mem_map.mpr ⟨d, hd, by rw [if_pos hname]⟩
      · exact List.mem_map.mpr ⟨e, he, by simp [hn]⟩
  · next h =>
    rw [any_iff_mem_names] at h
    dsimp only
    rw [List.mem_append, List.mem_singleton, or_comm]
    refine or_congr_right ⟨fun he => ⟨he, ?_⟩, fun he => he.1⟩
    rintro rfl
    exact h (List.mem_map_of_mem he)

theorem state_keep : (keep name number r).state = r.state := by
  unfold keep
  split <;> rfl

/-! ## Operations -/

theorem lookup_built {s : σ} (h : r.kept? w name = none)
    (hb : w.build name r.config r.state = (.ok number, s)) :
    lookup w name r = (.ok number, keep name number { r with state := s }) := by
  have hstep : inWorkshop (w.build name r.config) r = (.ok number, { r with state := s }) := by
    unfold inWorkshop
    rw [hb]
  rw [lookup_unkept w h]
  exact bind_ok hstep

theorem lookup_refused {s : σ} {f : Failure} (h : r.kept? w name = none)
    (hb : w.build name r.config r.state = (.error f, s)) :
    lookup w name r = (.error f, { r with state := s }) := by
  have hstep : inWorkshop (w.build name r.config) r = (.error f, { r with state := s }) := by
    unfold inWorkshop
    rw [hb]
  rw [lookup_unkept w h]
  exact bind_error hstep

/-- A lookup that answers gives the open controller that is kept, or one just built. -/
theorem of_lookup_ok {r' : Registry σ} (h : lookup w name r = (.ok number, r')) :
    (r.kept? w name = some number ∧ r' = r) ∨
      (r.kept? w name = none ∧ ∃ s, w.build name r.config r.state = (.ok number, s) ∧
        r' = keep name number { r with state := s }) := by
  cases hk : r.kept? w name with
  | some kept =>
    rw [lookup_kept w hk] at h
    cases h
    exact Or.inl ⟨rfl, rfl⟩
  | none =>
    rcases hb : w.build name r.config r.state with ⟨a, s⟩
    cases a with
    | ok built =>
      rw [lookup_built hk hb] at h
      cases h
      exact Or.inr ⟨rfl, s, rfl, rfl⟩
    | error f =>
      rw [lookup_refused hk hb] at h
      cases h

/-- A lookup fails only where it builds. -/
theorem of_lookup_error {r' : Registry σ} {f : Failure} (h : lookup w name r = (.error f, r')) :
    ∃ s, w.build name r.config r.state = (.error f, s) ∧ r' = { r with state := s } := by
  cases hk : r.kept? w name with
  | some kept =>
    rw [lookup_kept w hk] at h
    cases h
  | none =>
    rcases hb : w.build name r.config r.state with ⟨a, s⟩
    cases a with
    | ok built =>
      rw [lookup_built hk hb] at h
      cases h
    | error g =>
      rw [lookup_refused hk hb] at h
      cases h
      exact ⟨s, rfl, rfl⟩

/-- To close controllers one after another closes just these. -/
theorem closeAll_spec (hw : w.Reliable fit made) (numbers : List Nat) (hf : fit r.state) :
    ∃ t, forEach (fun number => inWorkshop (w.close number)) numbers r =
        (.ok (), { r with state := t }) ∧
      fit t ∧ made t = made r.state ∧
      ∀ m < (made r.state).length,
        w.isClosed t m = (w.isClosed r.state m || decide (m ∈ numbers)) := by
  induction numbers generalizing r with
  | nil => exact ⟨r.state, rfl, hf, rfl, fun m _ => by simp⟩
  | cons number rest ih =>
    obtain ⟨s, hs, hfs, hms, hcs⟩ := hw.closes number hf
    have hstep : inWorkshop (w.close number) r = (.ok (), { r with state := s }) := by
      unfold inWorkshop
      rw [hs]
    obtain ⟨t, ht, hft, hmt, hct⟩ := ih (r := { r with state := s }) hfs
    refine ⟨t, ?_, hft, hmt.trans hms, fun m hm => ?_⟩
    · rw [show forEach _ (number :: rest) r = _ from bind_ok hstep, ht]
    · rw [hct m (by rw [show made _ = made s from rfl, hms]; exact hm)]
      show (w.isClosed s m || _) = _
      rw [hcs m hm, Bool.or_assoc]
      by_cases he : m = number
      · simp [he]
      · simp [he, beq_false_of_ne he]

/-- A registry that is closed forgets its controllers and closes them. -/
theorem close_spec (hw : w.Reliable fit made) (hf : fit r.state) :
    ∃ t, close w r = (.ok (), { r with entries := [], state := t }) ∧
      fit t ∧ made t = made r.state ∧
      ∀ m < (made r.state).length,
        w.isClosed t m = (w.isClosed r.state m || decide (m ∈ r.entries.map (·.2))) :=
  closeAll_spec (r := { r with entries := [] }) hw (r.entries.map Prod.snd) hf

/-! ## What holds at any time -/

namespace Course

variable {c : Course σ}

/-- Under each name one controller is kept, which was built for it; a controller that is open is
kept; the names are those looked up recently, and whatever lookups answered was built for the name
looked up. -/
structure Consistent (w : Workshop σ) (fit : σ → Prop) (made : σ → List String) (c : Course σ) :
    Prop where
  fit : fit c.registry.state
  distinct : (c.registry.entries.map (·.1)).Nodup
  ours : ∀ e ∈ c.registry.entries, (made c.registry.state)[e.2]? = some e.1
  sole : ∀ n name, (made c.registry.state)[n]? = some name → w.isClosed c.registry.state n = false →
    (name, n) ∈ c.registry.entries
  recent : ∀ name, name ∈ c.registry.entries.map (·.1) ↔ name ∈ c.recent
  answered : ∀ e ∈ c.answers, (made c.registry.state)[e.2]? = some e.1

theorem kept?_eq_some : c.registry.kept? w name = some number ↔
    c.registry.entries.lookup name = some number ∧
      w.isClosed c.registry.state number = false := by
  unfold kept?
  simp [Option.filter_eq_some_iff]

/-- An open controller is the one that a lookup of its name finds. -/
theorem Consistent.kept_of_open (h : c.Consistent w fit made)
    (hm : (made c.registry.state)[number]? = some name)
    (ho : w.isClosed c.registry.state number = false) :
    c.registry.kept? w name = some number :=
  kept?_eq_some.mpr ⟨lookup_of_distinct h.distinct (h.sole number name hm ho), ho⟩

/-- The controllers stay, and perhaps some are closed; the registry keeps its entries. -/
theorem Consistent.withState (h : c.Consistent w fit made) {t : σ} (hf : fit t)
    (hm : made t = made c.registry.state)
    (hc : ∀ m < (made c.registry.state).length,
      w.isClosed t m = false → w.isClosed c.registry.state m = false) :
    Consistent w fit made { c with registry := { c.registry with state := t } } where
  fit := hf
  distinct := h.distinct
  ours e he := by
    show (made t)[e.2]? = _
    rw [hm]
    exact h.ours e he
  sole n name hn hopen := by
    change (made t)[n]? = some name at hn
    rw [hm] at hn
    exact h.sole n name hn (hc n (List.getElem?_eq_some_iff.mp hn).1 hopen)
  recent := h.recent
  answered e he := by
    show (made t)[e.2]? = _
    rw [hm]
    exact h.answered e he

/-- A lookup that finds its controller kept and open is taken down. -/
theorem Consistent.found (h : c.Consistent w fit made)
    (hk : c.registry.kept? w name = some number) :
    Consistent w fit made { c with
      answers := (name, number) :: c.answers
      recent := name :: c.recent } := by
  have hl := mem_of_lookup (kept?_eq_some.mp hk).1
  refine { h with recent := fun other => ?_, answered := fun e he => ?_ }
  · rw [List.mem_cons, ← h.recent other]
    refine ⟨Or.inr, ?_⟩
    rintro (rfl | ho)
    · exact List.mem_map_of_mem hl
    · exact ho
  · rcases List.mem_cons.mp he with rfl | he
    · exact h.ours _ hl
    · exact h.answered e he

/-- A lookup that has its controller built keeps it in the place of one that was closed. -/
theorem Consistent.built (hw : w.Reliable fit made) (h : c.Consistent w fit made)
    (hk : c.registry.kept? w name = none) {t : σ}
    (hb : w.build name c.registry.config c.registry.state = (.ok number, t)) :
    Consistent w fit made
      { registry := keep name number { c.registry with state := t }
        answers := (name, number) :: c.answers
        recent := name :: c.recent } := by
  obtain ⟨hf, hn, hm, hopen, hsame⟩ := hw.builds h.fit hb
  have hnew : (made t)[number]? = some name := by
    rw [hm, hn]
    exact List.getElem?_concat_length
  have hold {n : Nat} {other : String} (ho : (made c.registry.state)[n]? = some other) :
      (made t)[n]? = some other := by
    rw [hm, List.getElem?_append_left (List.getElem?_eq_some_iff.mp ho).1]
    exact ho
  have hstate : (keep name number { c.registry with state := t }).state = t := state_keep
  refine ⟨?_, nodup_names_keep h.distinct, ?_, ?_, fun other => ?_, ?_⟩
  · rw [hstate]
    exact hf
  · intro e he
    rw [hstate]
    rcases mem_entries_keep.mp he with rfl | ⟨he, -⟩
    · exact hnew
    · exact hold (h.ours e he)
  · intro n other ho hopen'
    rw [hstate] at ho hopen'
    rw [mem_entries_keep]
    by_cases hlt : n < (made c.registry.state).length
    · rw [hm, List.getElem?_append_left hlt] at ho
      rw [hsame n hlt] at hopen'
      refine Or.inr ⟨h.sole n other ho hopen', ?_⟩
      rintro rfl
      rw [h.kept_of_open ho hopen'] at hk
      cases hk
    · -- the controller just built is the only other one
      have hlen := (List.getElem?_eq_some_iff.mp ho).1
      rw [hm, List.length_append, List.length_singleton] at hlen
      obtain rfl : n = number := by omega
      rw [hnew] at ho
      obtain rfl := Option.some.inj ho
      exact Or.inl rfl
  · show other ∈ (keep name number _).entries.map (·.1) ↔ other ∈ name :: c.recent
    rw [mem_names_keep, List.mem_cons, ← h.recent other]
  · intro e he
    rw [hstate]
    rcases List.mem_cons.mp he with rfl | he
    · exact hnew
    · exact hold (h.answered e he)

/-- A lookup, whatever comes of it, leaves the registry consistent. -/
theorem consistent_find (hw : w.Reliable fit made) (name : String) :
    Keeps (Consistent w fit made) (find w name) := by
  intro c h
  unfold find
  rw [bind_apply]
  unfold onRegistry
  rcases hl : Registry.lookup w name c.registry with ⟨a, r⟩
  cases a with
  | ok number =>
    rcases of_lookup_ok hl with ⟨hk, rfl⟩ | ⟨hk, t, hb, rfl⟩
    · exact h.found hk
    · exact h.built hw hk hb
  | error f =>
    obtain ⟨t, hb, rfl⟩ := of_lookup_error hl
    obtain ⟨hf, hm, hsame⟩ := hw.refuses h.fit hb
    exact h.withState hf hm fun m hlt ho => by rw [← hsame m hlt]; exact ho

/-- With the registry closed every controller is. -/
theorem Consistent.closed (h : c.Consistent w fit made) {n : Nat}
    (hn : n < (made c.registry.state).length) :
    (w.isClosed c.registry.state n || decide (n ∈ c.registry.entries.map (·.2))) = true := by
  cases hc : w.isClosed c.registry.state n with
  | true => rfl
  | false =>
    have hl := h.sole n _ (List.getElem?_eq_getElem hn) hc
    rw [Bool.false_or, decide_eq_true_iff]
    exact List.mem_map_of_mem hl

theorem consistent_close (hw : w.Reliable fit made) (h : c.Consistent w fit made) :
    (c.act w .close).Consistent w fit made := by
  obtain ⟨t, ht, hf, hm, hc⟩ := close_spec hw h.fit
  have hact : c.act w .close = { c with
      registry := { c.registry with entries := [], state := t }, recent := [] } := by
    show { (onRegistry (close w) c).2 with recent := [] } = _
    unfold onRegistry
    rw [ht]
  rw [hact]
  refine
    { fit := hf, distinct := List.nodup_nil, ours := fun e he => (nomatch he)
      sole := fun n name hn hopen => ?_, recent := fun name => Iff.rfl, answered := fun e he => ?_ }
  · change (made t)[n]? = some name at hn
    rw [hm] at hn
    have hlt := (List.getElem?_eq_some_iff.mp hn).1
    change w.isClosed t n = false at hopen
    rw [hc n hlt, h.closed hlt] at hopen
    cases hopen
  · show (made t)[e.2]? = _
    rw [hm]
    exact h.answered e he

/-- Taking answers down does not change what is done with the registry. -/
theorem parallel_find (w : Workshop σ) (name : String) :
    Parallel (fun c r => c.registry = r) (find w name) (Registry.lookup w name) := by
  rintro c _ rfl
  unfold find
  rw [bind_apply]
  unfold onRegistry
  rcases Registry.lookup w name c.registry with ⟨a, r⟩
  cases a <;> exact ⟨rfl, rfl⟩

theorem parallel_findAll (w : Workshop σ) (host : Host) :
    Parallel (fun c r => c.registry = r) (findAll w host) (Registry.discover w host) :=
  parallel_bind (parallel_ofExcept _) fun adapters => parallel_forAll (parallel_find w) adapters

/-- The registry of a discovery is the one that its lookups leave behind. -/
theorem discover_eq (w : Workshop σ) (host : Host) : discover w host = findAll w host := by
  funext c
  obtain ⟨ha, hr⟩ := parallel_findAll w host c _ rfl
  unfold discover
  dsimp only
  rw [← ha, ← hr]

theorem consistent_discover (hw : w.Reliable fit made) (host : Host) :
    Keeps (Consistent w fit made) (discover w host) := by
  rw [discover_eq]
  exact keeps_bind (keeps_ofExcept (Adapters.discover host)) fun adapters =>
    keeps_forAll (consistent_find hw) adapters

/-- A move leaves the registry consistent. -/
theorem consistent_act (hw : w.Reliable fit made) (h : c.Consistent w fit made) (m : Move) :
    (c.act w m).Consistent w fit made := by
  cases m with
  | lookup name => exact consistent_find hw name c h
  | discover host => exact consistent_discover hw host c h
  | names => exact h
  | close => exact consistent_close hw h
  | closeController number =>
    obtain ⟨t, ht, hf, hm, hc⟩ := hw.closes number h.fit
    have hact : c.act w (.closeController number) =
        { c with registry := { c.registry with state := t } } := by
      show (onRegistry (inWorkshop (w.close number)) c).2 = _
      unfold onRegistry inWorkshop
      rw [ht]
    rw [hact]
    refine h.withState hf hm fun m hlt ho => ?_
    rw [hc m hlt, Bool.or_eq_false_iff] at ho
    exact ho.1

theorem consistent_run (hw : w.Reliable fit made) (ms : List Move) (h : c.Consistent w fit made) :
    (c.run w ms).Consistent w fit made := by
  induction ms generalizing c with
  | nil => exact h
  | cons m rest ih => exact ih (consistent_act hw h m)

end Course

end Registry

end BluetoothControl
