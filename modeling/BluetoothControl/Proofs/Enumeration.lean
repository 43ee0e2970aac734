import BluetoothControl.Host.Adapters
import BluetoothControl.Proofs.Procedure

/-!
# The adapters of a host, enumerated

Of the sources of adapter names the first one decides that does not fail and names an adapter: its
adapters are enumerated, each once, in ascending order of their numbers, and where no source decides
the default adapter stands for all (`discover_enumerates`).  In which order and how often a source
lists its entries makes a difference only between names that carry one number.
-/

namespace BluetoothControl

open BluetoothControl.Text

/-! ## What sources say -/

namespace Adapters

/-- The names of adapters: the fixed start, decimal digits of any script, and at most a line feed.
-/
def IsName (name : String) : Prop :=
  ∃ digits tail : List Char, name.toList = 'h' :: 'c' :: 'i' :: (digits ++ tail) ∧
    digits ≠ [] ∧ (∀ c ∈ digits, isDigit c = true) ∧ (tail = [] ∨ tail = ['\n'])

end Adapters

open Adapters

namespace Source

/-- A source names an adapter. -/
def Names (s : Source) (name : String) : Prop :=
  ∃ entries, s = .lists entries ∧ some name ∈ entries ∧ IsName name

/-- A source fails: it breaks off, an entry has no usable name, or the number of an adapter cannot
be read. -/
def Fails : Source → Prop
  | .fails .. => True
  | .lists entries => none ∈ entries ∨ ∃ name, some name ∈ entries ∧ IsName name ∧
      sortKey? name = none

/-- A source that decides if it comes first: it does not fail, and it names an adapter. -/
def Serves (s : Source) : Prop := ¬ s.Fails ∧ ∃ name, s.Names name

/-- If a source breaks off, it does so by an ordinary failure. -/
def IsOrdinary : Source → Prop
  | .fails _ f => f.kind.isOrdinary = true
  | .lists _ => True

/-- Two sources have the same entries, in whatever order and however often, or they break off by the
same failure, whatever they listed before. -/
def Relists : Source → Source → Prop
  | .lists es, .lists fs => ∀ e, e ∈ es ↔ e ∈ fs
  | .fails _ f, .fails _ g => f = g
  | _, _ => False

end Source

namespace Adapters

/-- The adapters that the first source that serves names, or the default adapter if none serves. -/
def Chosen : List Source → String → Prop
  | [], name => name = defaultAdapter
  | s :: rest, name => (s.Serves ∧ s.Names name) ∨ (¬ s.Serves ∧ Chosen rest name)

/-- The adapters with a property, each once, with numbers that can be read and do not descend. -/
structure Ascends (named : String → Prop) (names : List String) : Prop where
  mem_iff : ∀ name, name ∈ names ↔ named name
  distinct : names.Nodup
  accepted : ∀ name ∈ names, ∃ k, number name = .ok k
  ascending : names.Pairwise fun a b => ∃ j k, number a = .ok j ∧ number b = .ok k ∧ j ≤ k

theorem Ascends.congr {P Q : String → Prop} {names : List String} (h : Ascends P names)
    (hPQ : ∀ name, P name ↔ Q name) : Ascends Q names where
  mem_iff name := (h.mem_iff name).trans (hPQ name)
  distinct := h.distinct
  accepted := h.accepted
  ascending := h.ascending

/-! ## Names and numbers -/

theorem isDigit_lf : isDigit '\n' = false := by decide +kernel

theorem isName_iff (name : String) : isName name.toList = true ↔ IsName name := by
  unfold IsName
  constructor
  · intro h
    unfold isName at h
    split at h
    · next rest hname =>
      simp only [Bool.and_eq_true, Bool.not_eq_true', List.isEmpty_eq_false_iff, Bool.or_eq_true,
        beq_iff_eq] at h
      refine ⟨rest.takeWhile isDigit, rest.dropWhile isDigit, ?_, h.1, ?_, h.2⟩
      · rw [hname, List.takeWhile_append_dropWhile]
      · exact List.all_eq_true.mp List.all_takeWhile
    · cases h
  · rintro ⟨digits, tail, hname, hne, hdigits, htail⟩
    have htake : (digits ++ tail).takeWhile isDigit = digits := by
      rw [List.takeWhile_append_of_pos hdigits]
      rcases htail with rfl | rfl <;> simp [isDigit_lf]
    have hdrop : (digits ++ tail).dropWhile isDigit = tail := by
      rw [List.dropWhile_append_of_pos hdigits]
      rcases htail with rfl | rfl <;> simp [isDigit_lf]
    rw [hname]
    show (!((digits ++ tail).takeWhile isDigit).isEmpty &&
      ((digits ++ tail).dropWhile isDigit == [] || (digits ++ tail).dropWhile isDigit == ['\n'])) =
        true
    rw [htake, hdrop]
    rcases htail with rfl | rfl <;> simp [hne]

/-- What an adapter's name is sorted by is the number in it. -/
theorem number_of_isName {name : String} (h : IsName name) :
    number name =
      match sortKey? name with
      | some k => .ok k
      | none => .error (.notAdapterName name) := by
  obtain ⟨digits, tail, hname, -⟩ := h
  unfold number sortKey?
  rw [hname]
  rfl

/-! ## One source -/

theorem nodup_eraseDups (names : List String) : names.eraseDups.Nodup := by
  cases names with
  | nil => exact List.nodup_nil
  | cons name rest =>
    rw [List.eraseDups_cons]
    refine List.nodup_cons.mpr ⟨fun h => ?_, nodup_eraseDups (rest.filter fun n => !n == name)⟩
    simpa using List.mem_eraseDups.mp h
termination_by names.length
decreasing_by
  have := List.length_filter_le (fun n => !n == name) rest
  simp only [List.length_cons]
  omega

/-- What is made of each item in turn is missing if it is missing for one of them. -/
theorem mapM_eq_none_iff {α β : Type} {f : α → Option β} {as : List α} :
    as.mapM f = none ↔ ∃ a ∈ as, f a = none := by
  induction as with
  | nil => simp
  | cons a rest ih =>
    rw [List.mapM_cons]
    cases ha : f a with
    | none => simp [ha]
    | some b =>
      have hfirst : (∃ c ∈ a :: rest, f c = none) ↔ ∃ c ∈ rest, f c = none := by simp [ha]
      rw [hfirst, ← ih]
      cases rest.mapM f <;> simp

theorem mapM_id_eq_some {entries : List (Option String)} {names : List String}
    (h : entries.mapM id = some names) : entries = names.map some := by
  induction entries generalizing names with
  | nil =>
    cases h
    rfl
  | cons entry rest ih =>
    rw [List.mapM_cons] at h
    obtain ⟨name, hname, h⟩ := Option.bind_eq_some_iff.mp h
    obtain ⟨others, hothers, h⟩ := Option.bind_eq_some_iff.mp h
    cases h
    rw [ih hothers, List.map_cons]
    exact congrArg (· :: _) hname

/-- Each name is read with its key. -/
theorem mapM_sortKey?_eq_some {chosen : List String} {numbered : List (Int × String)}
    (h : (chosen.mapM fun n => (sortKey? n).map fun k => (k, n)) = some numbered) :
    numbered.map (·.2) = chosen ∧ ∀ e ∈ numbered, sortKey? e.2 = some e.1 := by
  induction chosen generalizing numbered with
  | nil =>
    cases h
    simp
  | cons n rest ih =>
    rw [List.mapM_cons] at h
    obtain ⟨e, he, h⟩ := Option.bind_eq_some_iff.mp h
    obtain ⟨others, hothers, h⟩ := Option.bind_eq_some_iff.mp h
    obtain ⟨k, hk, rfl⟩ := Option.map_eq_some_iff.mp he
    obtain ⟨hnames, hkeys⟩ := ih hothers
    cases h
    refine ⟨congrArg (n :: ·) hnames, List.forall_mem_cons.mpr ⟨hk, hkeys⟩⟩

theorem sorted?_eq_none_iff {names : List String} :
    sorted? names = none ↔ ∃ n ∈ names, IsName n ∧ sortKey? n = none := by
  unfold sorted?
  rw [Option.map_eq_none_iff, mapM_eq_none_iff]
  simp only [Option.map_eq_none_iff, List.mem_eraseDups, List.mem_filter, isName_iff, and_assoc]

/-- Names are sorted without loss and without repetition. -/
theorem ascends_of_sorted? {names sorted : List String} (h : sorted? names = some sorted) :
    Ascends (fun n => n ∈ names ∧ IsName n) sorted := by
  obtain ⟨numbered, hnumbered, rfl⟩ := Option.map_eq_some_iff.mp h
  obtain ⟨hnames, hkeys⟩ := mapM_sortKey?_eq_some hnumbered
  have hperm := List.mergeSort_perm numbered fun a b => decide (a.1 ≤ b.1)
  have hall := hperm.map (·.2)
  rw [hnames] at hall
  have hnumber : ∀ e ∈ numbered.mergeSort (fun a b => decide (a.1 ≤ b.1)),
      number e.2 = .ok e.1 := by
    intro e he
    have hmem : e.2 ∈ (names.filter fun n => isName n.toList).eraseDups := by
      rw [← hnames]
      exact List.mem_map_of_mem (hperm.mem_iff.mp he)
    have hname := (List.mem_filter.mp (List.mem_eraseDups.mp hmem)).2
    rw [number_of_isName ((isName_iff e.2).mp hname), hkeys e (hperm.mem_iff.mp he)]
  have hsorted : (numbered.mergeSort fun a b => decide (a.1 ≤ b.1)).Pairwise
      fun a b => a.1 ≤ b.1 := by
    have htrans : ∀ a b c : Int × String, decide (a.1 ≤ b.1) = true → decide (b.1 ≤ c.1) = true →
        decide (a.1 ≤ c.1) = true := by
      simp only [decide_eq_true_eq]
      omega
    have htotal : ∀ a b : Int × String, (decide (a.1 ≤ b.1) || decide (b.1 ≤ a.1)) = true := by
      simp only [Bool.or_eq_true, decide_eq_true_eq]
      omega
    simpa only [decide_eq_true_eq] using List.pairwise_mergeSort htrans htotal numbered
  constructor
  · intro name
    rw [hall.mem_iff, List.mem_eraseDups, List.mem_filter, isName_iff]
  · exact hall.nodup_iff.mpr (nodup_eraseDups _)
  · intro name hname
    obtain ⟨e, he, rfl⟩ := List.mem_map.mp hname
    exact ⟨e.1, hnumber e he⟩
  · rw [List.pairwise_map]
    refine hsorted.imp_of_mem fun {a b} ha hb hle => ?_
    exact ⟨a.1, b.1, hnumber a ha, hnumber b hb, hle⟩

theorem ofSource_of_fails {s : Source} (hord : s.IsOrdinary) (h : s.Fails) :
    ofSource s = .ok none := by
  cases s with
  | fails listed f => exact if_pos hord
  | lists entries =>
    show Except.ok ((entries.mapM id).bind sorted?) = _
    refine congrArg Except.ok (Option.bind_eq_none_iff.mpr fun names hnames => ?_)
    have hentries := mapM_id_eq_some hnames
    rcases h with h | ⟨name, hname, hkey⟩
    · rw [hentries] at h
      simp at h
    · rw [hentries] at hname
      exact sorted?_eq_none_iff.mpr ⟨name, by simpa using hname, hkey⟩

theorem ofSource_of_not_fails {s : Source} (h : ¬ s.Fails) :
    ∃ names, ofSource s = .ok (some names) ∧ Ascends s.Names names := by
  cases s with
  | fails listed f => exact absurd trivial h
  | lists entries =>
    cases hnames : entries.mapM id with
    | none =>
      obtain ⟨entry, hentry, hnone⟩ := mapM_eq_none_iff.mp hnames
      exact absurd (Or.inl (hnone ▸ hentry)) h
    | some names =>
      have hentries := mapM_id_eq_some hnames
      have hmem : ∀ name, name ∈ names ↔ some name ∈ entries := by simp [hentries]
      cases hsorted : sorted? names with
      | none =>
        obtain ⟨name, hname, hkey⟩ := sorted?_eq_none_iff.mp hsorted
        exact absurd (Or.inr ⟨name, (hmem name).mp hname, hkey⟩) h
      | some sorted =>
        refine ⟨sorted, ?_, (ascends_of_sorted? hsorted).congr fun name => ?_⟩
        · show Except.ok ((entries.mapM id).bind sorted?) = _
          rw [hnames, Option.bind_some, hsorted]
        · rw [hmem]
          simp [Source.Names]

/-! ## Which source decides -/

theorem chosen_of_serves {s : Source} (h : s.Serves) (rest : List Source) (name : String) :
    Chosen (s :: rest) name ↔ s.Names name := by
  simp [Chosen, h]

theorem chosen_of_not_serves {s : Source} (h : ¬ s.Serves) (rest : List Source) (name : String) :
    Chosen (s :: rest) name ↔ Chosen rest name := by
  simp [Chosen, h]

theorem exists_chosen (sources : List Source) : ∃ name, Chosen sources name := by
  induction sources with
  | nil => exact ⟨defaultAdapter, rfl⟩
  | cons s rest ih =>
    by_cases hs : s.Serves
    · obtain ⟨name, hname⟩ := hs.2
      exact ⟨name, (chosen_of_serves hs rest name).mpr hname⟩
    · obtain ⟨name, hname⟩ := ih
      exact ⟨name, (chosen_of_not_serves hs rest name).mpr hname⟩

theorem number_defaultAdapter : number defaultAdapter = .ok 0 :=
  Procedure.eq_ok_of_toOption (by decide +kernel)

theorem ascends_default : Ascends (Chosen []) [defaultAdapter] where
  mem_iff _ := List.mem_singleton
  distinct := List.pairwise_singleton ..
  accepted name hname := ⟨0, by rw [List.mem_singleton.mp hname, number_defaultAdapter]⟩
  ascending := List.pairwise_singleton ..

theorem ofSources_of_none {s : Source} (h : ofSource s = .ok none) (rest : List Source) :
    ofSources (s :: rest) = ofSources rest := by
  show (ofSource s >>= _) = _
  rw [h]
  rfl

theorem ofSources_of_nil {s : Source} (h : ofSource s = .ok (some [])) (rest : List Source) :
    ofSources (s :: rest) = ofSources rest := by
  show (ofSource s >>= _) = _
  rw [h]
  rfl

theorem ofSources_of_cons {s : Source} {name : String} {names : List String}
    (h : ofSource s = .ok (some (name :: names))) (rest : List Source) :
    ofSources (s :: rest) = .ok (name :: names) := by
  show (ofSource s >>= _) = _
  rw [h]
  rfl

/-- Sources are tried in turn. -/
theorem ofSources_ascends {sources : List Source} (hord : ∀ s ∈ sources, s.IsOrdinary) :
    ∃ names, ofSources sources = .ok names ∧ Ascends (Chosen sources) names := by
  induction sources with
  | nil => exact ⟨_, rfl, ascends_default⟩
  | cons s rest ih =>
    obtain ⟨hs, hrest⟩ := List.forall_mem_cons.mp hord
    obtain ⟨names, hnames, hchosen⟩ := ih hrest
    by_cases hfails : s.Fails
    · have hserves : ¬ s.Serves := fun hserves => hserves.1 hfails
      refine ⟨names, ?_, hchosen.congr fun n => (chosen_of_not_serves hserves rest n).symm⟩
      rw [ofSources_of_none (ofSource_of_fails hs hfails), hnames]
    · obtain ⟨own, hown, hascends⟩ := ofSource_of_not_fails hfails
      cases own with
      | nil =>
        have hserves : ¬ s.Serves := by
          rintro ⟨-, name, hname⟩
          exact absurd ((hascends.mem_iff name).mpr hname) List.not_mem_nil
        refine ⟨names, ?_, hchosen.congr fun n => (chosen_of_not_serves hserves rest n).symm⟩
        rw [ofSources_of_nil hown, hnames]
      | cons first others =>
        have hserves : s.Serves := ⟨hfails, first, (hascends.mem_iff first).mp List.mem_cons_self⟩
        exact ⟨first :: others, ofSources_of_cons hown rest,
          hascends.congr fun n => (chosen_of_serves hserves rest n).symm⟩

/-- Adapters whose numbers tell them apart can be enumerated in one way only. -/
theorem Ascends.unique {P : String → Prop} {names others : List String} (h : Ascends P names)
    (ho : Ascends P others)
    (hnumbers : ∀ a ∈ names, ∀ b ∈ names, number a = number b → a = b) : names = others := by
  have hperm : names.Perm others :=
    (List.perm_ext_iff_of_nodup h.distinct ho.distinct).mpr fun name =>
      (h.mem_iff name).trans (ho.mem_iff name).symm
  refine List.Perm.eq_of_pairwise (fun a b ha hb hab hba => ?_) h.ascending ho.ascending hperm
  obtain ⟨j, k, hj, hk, hle⟩ := hab
  obtain ⟨k', j', hk', hj', hge⟩ := hba
  rw [hj] at hj'
  rw [hk] at hk'
  cases hj'
  cases hk'
  refine hnumbers a ha b (hperm.mem_iff.mpr hb) ?_
  rw [hj, hk, Int.le_antisymm hle hge]

/-! ## Sources that list their entries anew -/

section
variable {s t : Source}

theorem isOrdinary_of_relists (h : s.Relists t) (hs : s.IsOrdinary) : t.IsOrdinary := by
  cases s <;> cases t
  · trivial
  · cases h
  · cases h
  · cases h
    exact hs

theorem fails_iff_of_relists (h : s.Relists t) : s.Fails ↔ t.Fails := by
  cases s <;> cases t
  · next es fs =>
    have hmem : ∀ e, e ∈ es ↔ e ∈ fs := h
    simp only [Source.Fails, hmem]
  · cases h
  · cases h
  · exact Iff.rfl

theorem names_iff_of_relists (h : s.Relists t) (name : String) : s.Names name ↔ t.Names name := by
  cases s <;> cases t
  · next es fs =>
    have hmem : ∀ e, e ∈ es ↔ e ∈ fs := h
    simp [Source.Names, hmem]
  · cases h
  · cases h
  · simp [Source.Names]

theorem serves_iff_of_relists (h : s.Relists t) : s.Serves ↔ t.Serves :=
  and_congr (not_congr (fails_iff_of_relists h)) (exists_congr (names_iff_of_relists h))

theorem chosen_iff_of_relists (h : s.Relists t) {rest others : List Source} {name : String}
    (hrest : Chosen rest name ↔ Chosen others name) :
    Chosen (s :: rest) name ↔ Chosen (t :: others) name := by
  simp only [Chosen, serves_iff_of_relists h, names_iff_of_relists h, hrest]

end

/-! ## Enumeration -/

/-- On a host with adapter sockets whose sources break off by ordinary failures only, if at all, the
adapters of the first source that serves are enumerated, each once and in ascending order of their
numbers, all of which can be read; the default adapter is, where no source serves.  Sources that
list the same entries in another order or number give the same enumeration, unless two of the
adapters have one number. -/
theorem discover_enumerates (h : Host) (hlinux : h.isLinux = true)
    (hkernel : h.kernelAdapters.IsOrdinary) (htree : h.treeAdapters.IsOrdinary) :
    ∃ names, discover h = .ok names ∧ names ≠ [] ∧
      Ascends (Chosen [h.kernelAdapters, h.treeAdapters]) names ∧
      (¬ h.kernelAdapters.Serves → ¬ h.treeAdapters.Serves → names = [defaultAdapter]) ∧
      ((∀ a ∈ names, ∀ b ∈ names, number a = number b → a = b) →
        ∀ g : Host, g.isLinux = true → h.kernelAdapters.Relists g.kernelAdapters →
          h.treeAdapters.Relists g.treeAdapters → discover g = .ok names) := by
  have hsources : ∀ f : Host, f.isLinux = true →
      discover f = ofSources [f.kernelAdapters, f.treeAdapters] := fun f hf => if_pos hf
  have hord : ∀ s ∈ [h.kernelAdapters, h.treeAdapters], s.IsOrdinary := by
    simp [hkernel, htree]
  obtain ⟨names, hnames, hascends⟩ := ofSources_ascends hord
  refine ⟨names, (hsources h hlinux).trans hnames, ?_, hascends, ?_, ?_⟩
  · rintro rfl
    obtain ⟨name, hname⟩ := exists_chosen [h.kernelAdapters, h.treeAdapters]
    exact absurd ((hascends.mem_iff name).mpr hname) List.not_mem_nil
  -- The rest is uniqueness: one adapter is told apart by its number, and so are several if they are
  -- said to be.
  · intro hk ht
    have hdefault : Ascends (Chosen []) names := hascends.congr fun name =>
      (chosen_of_not_serves hk _ name).trans (chosen_of_not_serves ht _ name)
    refine (ascends_default.unique hdefault fun a ha b hb _ => ?_).symm
    rw [List.mem_singleton.mp ha, List.mem_singleton.mp hb]
  · intro hnumbers g hg hk ht
    have hordg : ∀ s ∈ [g.kernelAdapters, g.treeAdapters], s.IsOrdinary := by
      simp [isOrdinary_of_relists hk hkernel, isOrdinary_of_relists ht htree]
    obtain ⟨others, hothers, hascendsg⟩ := ofSources_ascends hordg
    have hsame : Ascends (Chosen [h.kernelAdapters, h.treeAdapters]) others :=
      hascendsg.congr fun name =>
        (chosen_iff_of_relists hk (chosen_iff_of_relists ht Iff.rfl)).symm
    rw [hsources g hg, hothers, hascends.unique hsame hnumbers]

/-- The kernel's list breaks off after an adapter, and the device tree lists an adapter twice, one
with a digit of another script and one with a line feed; in another order it gives the same. -/
theorem discover_enumerates_broken_off :
    let h : Host := {
      kernelAdapters := .fails [some "hci7"] (.foreign .runtime "gone" none)
      treeAdapters :=
        .lists [some "hci10\n", some "rfkill0", some "hci2", some "hci\u0663", some "hci2"] }
    let g : Host := { h with
      treeAdapters := .lists [some "hci\u0663", some "hci2", some "rfkill0", some "hci10\n"] }
    discover h = .ok ["hci2", "hci\u0663", "hci10\n"] ∧
      discover g = .ok ["hci2", "hci\u0663", "hci10\n"] := by
  intro h g
  have htwo : number "hci2" = .ok 2 := Procedure.eq_ok_of_toOption (by decide +kernel)
  have hthree : number "hci\u0663" = .ok 3 := Procedure.eq_ok_of_toOption (by decide +kernel)
  have hten : number "hci10\n" = .ok 10 := Procedure.eq_ok_of_toOption (by decide +kernel)
  have hsorted : sorted? ["hci10\n", "rfkill0", "hci2", "hci\u0663", "hci2"] =
      some ["hci2", "hci\u0663", "hci10\n"] := by
    have hnumbered : ((["hci10\n", "rfkill0", "hci2", "hci\u0663", "hci2"].filter fun n =>
        isName n.toList).eraseDups.mapM fun n => (sortKey? n).map fun k => (k, n)) =
          some [(10, "hci10\n"), (2, "hci2"), (3, "hci\u0663")] := by decide +kernel
    unfold sorted?
    dsimp only
    rw [hnumbered]
    simp [List.mergeSort]
  have htree : ofSource h.treeAdapters = .ok (some ["hci2", "hci\u0663", "hci10\n"]) :=
    congrArg Except.ok hsorted
  have hfirst : discover h = .ok ["hci2", "hci\u0663", "hci10\n"] := by
    have hkernel : ofSource h.kernelAdapters = .ok none := ofSource_of_fails rfl trivial
    show ofSources [h.kernelAdapters, h.treeAdapters] = _
    rw [ofSources_of_none hkernel, ofSources_of_cons htree]
  obtain ⟨names, hnames, -, -, -, hagain⟩ := discover_enumerates h rfl rfl trivial
  rw [hfirst] at hnames
  cases hnames
  refine ⟨hfirst, hagain ?_ g rfl rfl ?_⟩
  · simp [htwo, hthree, hten]
  · intro e
    simp only [List.mem_cons, List.not_mem_nil]
    grind

end Adapters

end BluetoothControl
