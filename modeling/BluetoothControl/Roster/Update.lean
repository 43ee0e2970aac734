import BluetoothControl.Roster

/-!
# Rosters brought up to date

Putting devices into a roster one after another keeps the place at which an address first came and
the name that it was put with last.  So the devices that are put may be gathered in a roster of
their own first, and the other one brought up to date by it (`putAll_eq`).
-/

namespace BluetoothControl.Roster

variable {α : Type}

/-! ## Algorithm -/

/-- Devices put one after another. -/
def putAll (r entries : Roster α) : Roster α := entries.foldl (fun r e => r.put e.1 e.2) r

/-- A roster brought up to date by another: the devices that it has keep their places and take the
names that the other has for them, and those that only the other has follow in their order. -/
def update (r s : Roster α) : Roster α :=
  (r.map fun e => (e.1, (s.lookup e.1).getD e.2)) ++ s.filter fun e => !r.knows e.1

/-- A device renamed in its place, if it is there. -/
def rename (r : Roster α) (address : String) (name : α) : Roster α :=
  r.map fun e => if e.1 == address then (address, name) else e

/-! ## Lemmas -/

section
variable {r s : Roster α} {address : String}

theorem knows_append (r s : Roster α) (address : String) :
    knows (r ++ s) address = (r.knows address || s.knows address) := List.any_append

theorem knows_filter (p : String → Bool) (r : Roster α) (address : String) :
    knows (r.filter fun e => p e.1) address = (p address && r.knows address) := by
  unfold knows
  rw [List.any_filter]
  induction r with
  | nil => simp
  | cons e rest ih =>
    rw [List.any_cons, List.any_cons, ih, Bool.and_or_distrib_left]
    by_cases he : e.1 = address
    · rw [he]
    · simp [beq_false_of_ne he]

theorem ne_of_unknown (h : r.knows address = false) {e : String × α} (he : e ∈ r) :
    e.1 ≠ address := by
  simpa using List.any_eq_false.mp h e he

theorem put_eq (r : Roster α) (address : String) (name : α) :
    r.put address name =
      if r.knows address then r.rename address name else r ++ [(address, name)] := rfl

theorem rename_of_unknown (h : r.knows address = false) (name : α) :
    r.rename address name = r := by
  refine (List.map_congr_left fun e he => ?_).trans (List.map_id r)
  rw [beq_false_of_ne (ne_of_unknown h he)]
  rfl

theorem rename_append (r s : Roster α) (address : String) (name : α) :
    rename (r ++ s) address name = r.rename address name ++ s.rename address name :=
  List.map_append

theorem put_append_of_known (hr : r.knows address = true) (hs : s.knows address = false)
    (name : α) : put (r ++ s) address name = r.rename address name ++ s := by
  rw [put_eq, knows_append, hr, Bool.true_or, if_pos rfl, rename_append, rename_of_unknown hs]

theorem put_append_of_unknown (hr : r.knows address = false) (s : Roster α) (name : α) :
    put (r ++ s) address name = r ++ s.put address name := by
  rw [put_eq, put_eq, knows_append, hr, Bool.false_or, rename_append, rename_of_unknown hr,
    List.append_assoc]
  split <;> rfl

/-! ### Names -/

theorem lookup_of_unknown (h : r.knows address = false) : r.lookup address = none := by
  apply List.lookup_eq_none_iff.mpr
  intro e he
  exact bne_iff_ne.mpr (ne_of_unknown h he).symm

theorem lookup_rename (r : Roster α) (address : String) (name : α) (a : String) :
    (r.rename address name).lookup a =
      if a = address ∧ r.knows address = true then some name else r.lookup a := by
  induction r with
  | nil => simp [rename, knows]
  | cons e rest ih =>
    obtain ⟨b, old⟩ := e
    have hrename : rename ((b, old) :: rest) address name =
        (if b = address then (address, name) else (b, old)) :: rename rest address name := by
      simp [rename]
    have hknows : knows ((b, old) :: rest) address = (b == address || knows rest address) := rfl
    rw [hrename, hknows]
    by_cases hb : b = address
    · subst hb
      by_cases ha : a = b
      · simp [ha]
      · simp [ha, List.lookup_cons, ih, beq_false_of_ne ha]
    · by_cases ha : a = address
      · subst ha
        simp [hb, List.lookup_cons, ih, beq_false_of_ne hb, beq_false_of_ne (Ne.symm hb)]
      · simp [hb, ha, List.lookup_cons, ih]

theorem lookup_put (r : Roster α) (address : String) (name : α) (a : String) :
    (r.put address name).lookup a = if a = address then some name else r.lookup a := by
  rw [put_eq]
  cases hk : r.knows address with
  | true => simp [lookup_rename, hk]
  | false =>
    rw [if_neg Bool.false_ne_true, List.lookup_append]
    by_cases ha : a = address
    · subst ha
      simp [lookup_of_unknown hk]
    · simp [ha, List.lookup_cons, beq_false_of_ne ha]

/-! ### Devices chosen by address -/

theorem filter_rename (p : String → Bool) (r : Roster α) (address : String) (name : α) :
    (r.rename address name).filter (fun e => p e.1) =
      rename (r.filter fun e => p e.1) address name := by
  unfold rename
  rw [List.filter_map]
  refine congrArg (List.map _) (List.filter_congr fun e _ => ?_)
  by_cases he : e.1 = address <;> simp [he]

/-- What is chosen by address can be chosen before a device is put. -/
theorem filter_put (p : String → Bool) (r : Roster α) (address : String) (name : α) :
    (r.put address name).filter (fun e => p e.1) =
      if p address then put (r.filter fun e => p e.1) address name
      else r.filter fun e => p e.1 := by
  have hrename := filter_rename p r address name
  have hknows := knows_filter p r address
  rw [put_eq, put_eq, hknows]
  cases hp : p address with
  | true =>
    cases hk : r.knows address with
    | true => simpa using hrename
    | false => simp [hp]
  | false =>
    rw [hp, Bool.false_and] at hknows
    cases hk : r.knows address with
    | true => simpa [rename_of_unknown hknows] using hrename
    | false => simp [hp]

/-! ### Updates -/

theorem update_nil (r : Roster α) : r.update [] = r := by simp [update]

/-- A device put after an update could have been put into what the update is by. -/
theorem update_put (r s : Roster α) (address : String) (name : α) :
    (r.update s).put address name = r.update (s.put address name) := by
  have hfilter := filter_put (fun a => !r.knows a) s address name
  have hknows : knows (r.map fun e => (e.1, (s.lookup e.1).getD e.2)) address = r.knows address :=
    List.any_map
  unfold update
  -- a known address is renamed where it stands, and is not among those that follow; an unknown one
  -- goes to those that follow, and no place that stands takes its name
  cases hk : r.knows address with
  | true =>
    rw [hk] at hfilter hknows
    have hrest : knows (s.filter fun e => !r.knows e.1) address = false := by
      rw [knows_filter fun a => !r.knows a, hk]
      rfl
    rw [put_append_of_known hknows hrest, hfilter, if_neg (by simp)]
    refine congrArg (· ++ _) ?_
    unfold rename
    rw [List.map_map]
    apply List.map_congr_left
    intro e _
    by_cases he : e.1 = address <;> simp [lookup_put, he]
  | false =>
    rw [hk] at hfilter hknows
    rw [put_append_of_unknown hknows, hfilter, if_pos (by simp)]
    refine congrArg (· ++ _) (List.map_congr_left fun e he => ?_)
    rw [lookup_put, if_neg (ne_of_unknown hk he)]

theorem putAll_update (r s entries : Roster α) :
    (r.update s).putAll entries = r.update (s.putAll entries) := by
  induction entries generalizing s with
  | nil => rfl
  | cons e rest ih =>
    show ((r.update s).put e.1 e.2).putAll rest = _
    rw [update_put, ih]
    rfl

/-- Putting devices one after another is an update by what is gathered of them. -/
theorem putAll_eq (r entries : Roster α) : r.putAll entries = r.update (putAll [] entries) := by
  rw [← putAll_update, update_nil]

/-! ### Devices put one after another -/

theorem putAll_append (r es fs : Roster α) :
    r.putAll (es ++ fs) = (r.putAll es).putAll fs := List.foldl_append

theorem mem_putAll {entries : Roster α} {e : String × α} (h : e ∈ r.putAll entries) :
    e ∈ r ∨ e ∈ entries := by
  induction entries generalizing r with
  | nil => exact Or.inl h
  | cons d rest ih =>
    rcases ih h with h | h
    · rcases mem_put h with h | rfl
      · exact Or.inl h
      · exact Or.inr List.mem_cons_self
    · exact Or.inr (List.mem_cons_of_mem d h)

theorem nodup_putAll (h : r.addresses.Nodup) (entries : Roster α) :
    (r.putAll entries).addresses.Nodup := by
  induction entries generalizing r with
  | nil => exact h
  | cons e rest ih => exact ih (nodup_enter h (addresses_put r e.1 e.2))

/-- Devices of which none is known, and no two have one address, follow in their order. -/
theorem putAll_of_unknown {entries : Roster α} (hn : entries.addresses.Nodup)
    (h : ∀ e ∈ entries, e.1 ∉ r.addresses) : r.putAll entries = r ++ entries := by
  induction entries generalizing r with
  | nil => exact (List.append_nil r).symm
  | cons e rest ih =>
    obtain ⟨hfirst, hrest⟩ := List.nodup_cons.mp hn
    have he : e.1 ∉ addresses rest := hfirst
    obtain ⟨hnew, hothers⟩ := List.forall_mem_cons.mp h
    show (r.put e.1 e.2).putAll rest = _
    rw [put_of_unknown hnew, ih hrest, List.append_assoc]
    · rfl
    · intro d hd hmem
      rw [addresses, List.map_append, List.mem_append] at hmem
      rcases hmem with hmem | hmem
      · exact hothers d hd hmem
      · have hsame : d.1 = e.1 := List.mem_singleton.mp hmem
        apply he
        rw [← hsame]
        exact List.mem_map_of_mem hd

/-- An update puts the devices that it is by one after another. -/
theorem update_eq_putAll (hs : s.addresses.Nodup) (r : Roster α) : r.update s = r.putAll s := by
  have hgathered : putAll [] s = s := putAll_of_unknown hs fun _ _ => List.not_mem_nil
  rw [putAll_eq, hgathered]

end

end BluetoothControl.Roster
