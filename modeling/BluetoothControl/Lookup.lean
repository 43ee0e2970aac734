/-!
# Entries by key and by place

The first entry with a key is the one that is found.  Where no two entries have one key, to be there
and to be found are the same.  An element that is changed in its place leaves the others alone.
-/

namespace BluetoothControl

variable {α β : Type} [BEq α] [LawfulBEq α] {es : List (α × β)} {a : α} {b : β}

theorem mem_of_lookup (h : es.lookup a = some b) : (a, b) ∈ es := by
  obtain ⟨before, after, rfl, -⟩ := List.lookup_eq_some_iff.mp h
  simp

theorem lookup_of_distinct (hn : (es.map (·.1)).Nodup) (h : (a, b) ∈ es) :
    es.lookup a = some b := by
  induction es with
  | nil => cases h
  | cons e rest ih =>
    obtain ⟨hne, hrest⟩ := List.nodup_cons.mp hn
    rcases List.mem_cons.mp h with rfl | h
    · exact List.lookup_cons_self
    · have hk : (a == e.1) = false :=
        beq_false_of_ne fun he => hne (List.mem_map.mpr ⟨_, h, he⟩)
      rw [List.lookup_cons, hk]
      exact ih hrest h

/-- What holds of every element of a list, and of what one of them is changed for, holds of every
element of the list with the change. -/
theorem forall_mem_modify {α : Type} {P : α → Prop} {l : List α} {k : Nat} {f : α → α}
    (h : ∀ a ∈ l, P a) (hf : ∀ a, l[k]? = some a → P (f a)) : ∀ a ∈ l.modify k f, P a := by
  intro a ha
  obtain ⟨i, hi⟩ := List.mem_iff_getElem?.mp ha
  rw [List.getElem?_modify] at hi
  obtain ⟨b, hb, rfl⟩ := Option.map_eq_some_iff.mp hi
  by_cases hk : k = i
  · subst hk
    simpa using hf b hb
  · simpa [hk] using h b (List.mem_of_getElem? hb)

end BluetoothControl
