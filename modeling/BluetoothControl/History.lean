/-!
# Histories

What holds of every item of a list and the items before it.  A list that grows at its end keeps it
if it holds of each item that is added.
-/

namespace BluetoothControl

variable {α : Type} {R S : List α → α → Prop} {as bs : List α}

/-- Every item stands to the items before it as `R` says. -/
def Throughout (R : List α → α → Prop) (as : List α) : Prop :=
  ∀ before a after, as = before ++ a :: after → R before a

/-! ## Lemmas -/

theorem throughout_nil : Throughout R [] := by
  intro before a after h
  simp at h

theorem throughout_append :
    Throughout R (as ++ bs) ↔ Throughout R as ∧ Throughout (fun before => R (as ++ before)) bs := by
  constructor
  · refine fun h => ⟨?_, ?_⟩
    · rintro before a after rfl
      exact h before a (after ++ bs) (by simp)
    · rintro before a after rfl
      exact h (as ++ before) a after (by simp)
  · rintro ⟨has, hbs⟩ before a after h
    rcases List.append_eq_append_iff.mp h with ⟨cs, rfl, hb⟩ | ⟨cs, ha, hb⟩
    · exact hbs cs a after hb
    · -- the item is the first of `bs` if nothing of `as` is left after the items before it
      cases cs with
      | nil =>
        rw [List.append_nil] at ha
        have hr : R (as ++ []) a := hbs [] a after hb.symm
        rwa [List.append_nil, ha] at hr
      | cons c rest =>
        obtain ⟨rfl, rfl⟩ := List.cons.inj hb
        exact has before a rest ha

theorem throughout_singleton {a : α} : Throughout R [a] ↔ R [] a := by
  constructor
  · exact fun h => h [] a [] rfl
  · rintro h before b after hb
    cases before with
    | nil =>
      cases hb
      exact h
    | cons c rest =>
      have := congrArg List.length hb
      simp at this

theorem throughout_concat {a : α} : Throughout R (as ++ [a]) ↔ Throughout R as ∧ R as a := by
  rw [throughout_append, throughout_singleton, List.append_nil]

end BluetoothControl
