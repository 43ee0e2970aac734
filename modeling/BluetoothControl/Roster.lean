/-!
# Rosters

Devices by address, in the order in which the addresses first came, each with one name.  There are
two ways to enter a device: `note` keeps the name an address already has, `put` replaces it; both
keep its place.  Names are texts where they are read off a text, and values where a service reports
them.
-/

namespace BluetoothControl

/-- Names of type `α` by address, in order. -/
abbrev Roster (α : Type) := List (String × α)

namespace Roster

variable {α : Type}

/-! ## Algorithm -/

/-- The addresses, in order. -/
def addresses (r : Roster α) : List String := r.map (·.1)

/-- Whether an address is known. -/
def knows (r : Roster α) (address : String) : Bool := r.any (·.1 == address)

/-- A device entered unless its address is known. -/
def note (r : Roster α) (address : String) (name : α) : Roster α :=
  if r.knows address then r else r ++ [(address, name)]

/-- Devices entered one after another. -/
def noteAll (r entries : Roster α) : Roster α := entries.foldl (fun r e => r.note e.1 e.2) r

/-- Of the entries with one address the first. -/
def firsts : Roster α → Roster α
  | [] => []
  | e :: rest => e :: (firsts rest).filter fun d => d.1 != e.1

/-- A device entered, or renamed in its place. -/
def put (r : Roster α) (address : String) (name : α) : Roster α :=
  if r.knows address then r.map fun e => if e.1 == address then (address, name) else e
  else r ++ [(address, name)]

/-! ## Lemmas -/

theorem knows_iff (r : Roster α) (address : String) : r.knows address ↔ address ∈ r.addresses := by
  simp [knows, addresses]

theorem addresses_note (r : Roster α) (address : String) (name : α) :
    (r.note address name).addresses =
      if r.knows address then r.addresses else r.addresses ++ [address] := by
  unfold note; split <;> simp [addresses]

theorem addresses_put (r : Roster α) (address : String) (name : α) :
    (r.put address name).addresses =
      if r.knows address then r.addresses else r.addresses ++ [address] := by
  unfold put
  split
  · simp only [addresses, List.map_map]
    apply List.map_congr_left
    intro e _
    by_cases h : e.1 == address <;> simp_all
  · simp [addresses]

/-- An address entered at the end unless it is known, by whichever way of entering. -/
theorem nodup_enter {β : Type} {r : Roster α} {s : Roster β} {address : String}
    (h : r.addresses.Nodup)
    (hs : s.addresses = if r.knows address then r.addresses else r.addresses ++ [address]) :
    s.addresses.Nodup := by
  rw [hs]
  split
  · exact h
  · next hk =>
    refine List.nodup_append.mpr ⟨h, List.pairwise_singleton .., fun a ha b hb => ?_⟩
    rw [List.mem_singleton.mp hb]
    rintro rfl
    exact hk ((knows_iff r a).mpr ha)

theorem put_of_unknown {r : Roster α} {address : String} (h : address ∉ r.addresses) (name : α) :
    r.put address name = r ++ [(address, name)] := by
  unfold put
  rw [if_neg (mt (knows_iff r address).mp h)]

theorem mem_put {r : Roster α} {address : String} {name : α} {e : String × α}
    (h : e ∈ r.put address name) : e ∈ r ∨ e = (address, name) := by
  unfold put at h
  split at h
  · obtain ⟨d, hd, rfl⟩ := List.mem_map.mp h
    split
    · exact Or.inr rfl
    · exact Or.inl hd
  · simpa using h

theorem noteAll_append (r es fs : Roster α) :
    r.noteAll (es ++ fs) = (r.noteAll es).noteAll fs := List.foldl_append ..

/-- What is chosen by address alone can be chosen first. -/
theorem firsts_filter (p : String → Bool) (r : Roster α) :
    firsts (r.filter fun e => p e.1) = (firsts r).filter fun e => p e.1 := by
  induction r with
  | nil => rfl
  | cons e rest ih =>
    cases he : p e.1 with
    | true =>
      rw [List.filter_cons_of_pos (by exact he), firsts, firsts, ih,
        List.filter_cons_of_pos (by exact he), List.filter_filter, List.filter_filter]
      simp only [Bool.and_comm]
    | false =>
      have hne : ∀ d : String × α, p d.1 = (p d.1 && d.1 != e.1) := by
        intro d
        cases hd : p d.1 with
        | false => rfl
        | true =>
          have : d.1 ≠ e.1 := by
            intro h
            rw [h, he] at hd
            cases hd
          simp [this]
      rw [List.filter_cons_of_neg (by simp [he]), ih, firsts,
        List.filter_cons_of_neg (by simp [he]), List.filter_filter]
      exact congrArg (fun q => (firsts rest).filter q) (funext hne)

/-- Entering devices one after another keeps of each address the first entry. -/
theorem noteAll_eq (r entries : Roster α) :
    r.noteAll entries = r ++ firsts (entries.filter fun e => !r.knows e.1) := by
  induction entries generalizing r with
  | nil => exact (List.append_nil r).symm
  | cons e rest ih =>
    show (r.note e.1 e.2).noteAll rest = _
    rw [ih]
    unfold note
    cases he : r.knows e.1 with
    | true => rw [if_pos rfl, List.filter_cons_of_neg (by simp [he])]
    | false =>
      have hknows : ∀ d : String × α,
          (!knows (r ++ [(e.1, e.2)]) d.1) = (d.1 != e.1 && !r.knows d.1) := by
        intro d
        unfold knows
        rw [List.any_append, Bool.not_or, Bool.and_comm, List.any_cons, List.any_nil,
          Bool.or_false, BEq.comm (a := e.1)]
        rfl
      rw [if_neg Bool.false_ne_true, List.filter_cons_of_pos (by simp [he]), firsts,
        List.append_assoc, ← firsts_filter fun a => a != e.1, List.filter_filter]
      simp only [hknows]
      rfl

theorem noteAll_nil (entries : Roster α) : noteAll [] entries = firsts entries := by
  rw [noteAll_eq, List.nil_append]
  exact congrArg firsts (List.filter_eq_self.mpr fun _ _ => rfl)

theorem nodup_firsts (r : Roster α) : (firsts r).addresses.Nodup := by
  induction r with
  | nil => exact List.nodup_nil
  | cons e rest ih =>
    refine List.nodup_cons.mpr ⟨fun h => ?_, ?_⟩
    · obtain ⟨d, hd, ha⟩ := List.mem_map.mp h
      simp [ha] at hd
    · exact ih.sublist (List.filter_sublist.map _)

theorem mem_of_mem_firsts {r : Roster α} {e : String × α} (h : e ∈ firsts r) : e ∈ r := by
  induction r with
  | nil => exact h
  | cons d rest ih =>
    rcases List.mem_cons.mp h with rfl | h
    · exact List.mem_cons_self
    · exact List.mem_cons_of_mem _ (ih (List.mem_filter.mp h).1)

end Roster

end BluetoothControl
