import BluetoothControl.Proofs.Client.Reading
import BluetoothControl.Proofs.Registry.Consistent
import BluetoothControl.Proofs.Registry.Workshops

/-!
# One open controller for each name

At any time in the life of a registry: what the next lookup answers, which controllers are open,
which names are known, and that closing the registry closes all that was ever built.
-/

namespace BluetoothControl

open Procedure

variable {σ : Type} {w : Workshop σ} {fit : σ → Prop} {made : σ → List String}

namespace Registry

/-! ## Names -/

theorem mem_names {r : Registry σ} {name : String} :
    name ∈ r.names ↔ name ∈ r.entries.map (·.1) := List.mem_mergeSort

/-- The names are in order, each of them once. -/
theorem names_increasing {r : Registry σ} (h : (r.entries.map (·.1)).Nodup) :
    r.names.Pairwise (· < ·) := by
  have hsorted : r.names.Pairwise (· ≤ ·) := by
    exact Client.sortedPaths_sorted (r.entries.map Prod.fst)
  have hnodup : r.names.Nodup := (List.mergeSort_perm _ _).nodup_iff.mpr h
  refine hsorted.imp₂ (fun a b hle hne => ?_) hnodup
  exact String.not_le.mp fun hge => hne (String.le_antisymm hle hge)

namespace Course

variable {c : Course σ}

/-! ## The registry of a course -/

/-- What a move does to the registry. -/
theorem registry_act (m : Move) : (c.act w m).registry = match m with
    | .lookup name => (Registry.lookup w name c.registry).2
    | .discover host => (Registry.discover w host c.registry).2
    | .names => c.registry
    | .close => (Registry.close w c.registry).2
    | .closeController number => (inWorkshop (w.close number) c.registry).2 := by
  cases m with
  | lookup name => exact (parallel_find w name c _ rfl).2
  | discover host => rfl
  | names => rfl
  | close => rfl
  | closeController number => rfl

/-! ## The promise -/

/-- What can be said of a registry at any time of its life. -/
structure Orderly (w : Workshop σ) (made : σ → List String) (c : Course σ) : Prop where
  /-- A lookup that answers gives an open controller that was built for the name. -/
  gives : ∀ {name n r}, Registry.lookup w name c.registry = (.ok n, r) →
    (made r.state)[n]? = some name ∧ w.isClosed r.state n = false
  /-- It is the one that the lookup before it gave, unless that one was closed. -/
  same : ∀ {name n r m}, Registry.lookup w name c.registry = (.ok n, r) →
    c.answers.lookup name = some m → (n = m ↔ w.isClosed c.registry.state m = false)
  /-- A lookup fails only where its controller cannot be built, and leaves everything as it was. -/
  refuses : ∀ {name f r}, Registry.lookup w name c.registry = (.error f, r) →
    (∃ t, w.build name c.registry.config c.registry.state = (.error f, t) ∧
      r = { c.registry with state := t }) ∧
    made r.state = made c.registry.state ∧
    ∀ m < (made c.registry.state).length, w.isClosed r.state m = w.isClosed c.registry.state m
  /-- Of all controllers that were built for a name one at most is open. -/
  single : ∀ {m n name}, (made c.registry.state)[m]? = some name →
    (made c.registry.state)[n]? = some name →
    w.isClosed c.registry.state m = false → w.isClosed c.registry.state n = false → m = n
  /-- The names come in order and once each. -/
  increasing : c.registry.names.Pairwise (· < ·)
  /-- They are those that were looked up since the registry was last closed. -/
  known : ∀ name, name ∈ c.registry.names ↔ name ∈ c.recent
  /-- To close the registry always answers; no name is known then, and no controller open. -/
  closes : ∃ r, Registry.close w c.registry = (.ok (), r) ∧ r.names = [] ∧
    made r.state = made c.registry.state ∧
    ∀ m < (made c.registry.state).length, w.isClosed r.state m = true

theorem Consistent.orderly (hw : w.Reliable fit made) (h : c.Consistent w fit made) :
    c.Orderly w made where
  gives {name n r} hl := by
    rcases of_lookup_ok hl with ⟨hk, rfl⟩ | ⟨-, t, hb, rfl⟩
    · obtain ⟨hentry, hopen⟩ := kept?_eq_some.mp hk
      exact ⟨h.ours _ (mem_of_lookup hentry), hopen⟩
    · obtain ⟨-, rfl, hm, hopen, -⟩ := hw.builds h.fit hb
      rw [state_keep, hm]
      exact ⟨List.getElem?_concat_length, hopen⟩
  same {name n r m} hl ha := by
    have hm := h.answered _ (mem_of_lookup ha)
    rcases of_lookup_ok hl with ⟨hk, -⟩ | ⟨hk, t, hb, -⟩
    · constructor
      · rintro rfl
        exact (kept?_eq_some.mp hk).2
      · intro ho
        rw [h.kept_of_open hm ho] at hk
        exact (Option.some.inj hk).symm
    · -- the controller just built is none of the old ones, and they are all closed
      obtain ⟨-, hn, -⟩ := hw.builds h.fit hb
      have hlt : m < (made c.registry.state).length := (List.getElem?_eq_some_iff.mp hm).1
      constructor
      · intro he
        omega
      · intro ho
        rw [h.kept_of_open hm ho] at hk
        cases hk
  refuses {name f r} hl := by
    obtain ⟨t, hb, rfl⟩ := of_lookup_error hl
    obtain ⟨-, hm, hsame⟩ := hw.refuses h.fit hb
    exact ⟨⟨t, hb, rfl⟩, hm, hsame⟩
  single {m n name} hm hn hom hon := by
    have hkm := h.kept_of_open hm hom
    rw [h.kept_of_open hn hon] at hkm
    exact (Option.some.inj hkm).symm
  increasing := names_increasing h.distinct
  known name := mem_names.trans (h.recent name)
  closes := by
    obtain ⟨t, ht, -, hm, hc⟩ := close_spec hw h.fit
    refine ⟨_, ht, List.mergeSort_nil, hm, fun m hlt => ?_⟩
    rw [show w.isClosed _ m = w.isClosed t m from rfl, hc m hlt]
    exact h.closed hlt

/-- Whatever is done with a registry, at most one of the controllers ever built for a name is open,
and it is the one that a lookup of the name gives. -/
theorem one_open_per_name (hw : w.Reliable fit made) {s : σ} (hs : fit s) (h0 : made s = [])
    (config : Option Config) (ms : List Move) :
    (run w ms { registry := { config, state := s } }).Orderly w made := by
  refine (consistent_run hw ms ?_).orderly hw
  refine
    { fit := hs, distinct := List.nodup_nil, ours := fun e he => (nomatch he)
      sole := fun n name hn => ?_, recent := fun name => Iff.rfl
      answered := fun e he => (nomatch he) }
  rw [show made _ = [] from h0] at hn
  cases hn

/-- A controller closed behind the registry's back is replaced. -/
theorem one_open_per_name_replaced :
    let c := run MockupWorkshop.workshop
      [.lookup "hci1", .lookup "hci0", .lookup "hci9", .closeController 0, .lookup "hci1"]
      { registry := { state := { unbuildable := ["hci9"] } } }
    c.answers = [("hci1", 2), ("hci0", 1), ("hci1", 0)] ∧
      c.Orderly MockupWorkshop.workshop (fun s => s.built.map (·.name)) :=
  ⟨by decide, one_open_per_name MockupWorkshop.reliable rfl rfl none _⟩

end Course

end Registry

end BluetoothControl
