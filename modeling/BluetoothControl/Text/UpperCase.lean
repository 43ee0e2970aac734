import BluetoothControl.Text.UpperCase.Table

/-!
# Upper case

The full upper-case mapping of Unicode, character by character; a character may become several
(`ß` becomes `SS`), and one without an upper case stays.
-/

namespace BluetoothControl.Text

/-! ## Algorithm -/

/-- The upper case of one character. -/
def upperChar (c : Char) : List Char :=
  let n := c.toNat
  match upperExpansions.lookup n with
  | some cs => cs.map Char.ofNat
  | none =>
    match upperRuns.find? fun r => r.1 ≤ n && n ≤ r.2.1 && (n - r.1) % r.2.2.1 == 0 with
    | some r => [Char.ofNat ((n : Int) + r.2.2.2).toNat]
    | none => [c]

/-- The upper case of a text. -/
def upper (cs : List Char) : List Char := cs.flatMap upperChar

/-- The ligature of two letters f, whose upper case is two letters. -/
def ligature : Char := 'ﬀ'

/-! ## Lemmas -/

theorem toNat_ofNat {n : Nat} (h : n.isValidChar) : (Char.ofNat n).toNat = n := by
  rw [Char.ofNat, dif_pos h]
  rfl

/-- A lone upper case lies beyond the letter F, but for those of ASCII letters. -/
theorem upperRuns_beyond : ∀ r ∈ upperRuns,
    r = (0x61, 0x7a, 1, -32) ∨ (70 : Int) < (r.1 : Int) + r.2.2.2 := by
  have hall : (upperRuns.all fun r =>
      r == (0x61, 0x7a, 1, -32) || decide ((70 : Int) < (r.1 : Int) + r.2.2.2)) = true := by
    decide +kernel
  intro r hr
  simpa using List.all_eq_true.mp hall r hr

/-- So does a part of every longer one, but for that of one ligature. -/
theorem upperExpansions_beyond : ∀ e ∈ upperExpansions,
    e = (0xfb00, [0x46, 0x46]) ∨
      '\n' ∉ e.2.map Char.ofNat ∧ ∃ d ∈ e.2.map Char.ofNat, 70 < d.toNat := by
  have hall : (upperExpansions.all fun e =>
      e == (0xfb00, [0x46, 0x46]) || !(e.2.map Char.ofNat).contains '\n' &&
        (e.2.map Char.ofNat).any fun d => 70 < d.toNat) = true := by
    decide +kernel
  intro e he
  have h := List.all_eq_true.mp hall e he
  rw [Bool.or_eq_true, Bool.and_eq_true, Bool.not_eq_true', Bool.eq_false_iff, ne_eq,
    List.contains_iff_mem, List.any_eq_true] at h
  simpa only [beq_iff_eq, decide_eq_true_eq] using h

/-- A character stays, or is an ASCII letter and is raised, or is the ligature; or else its upper
case has no line break and a part that is no ASCII character up to the letter F. -/
theorem upperChar_cases (c : Char) :
    upperChar c = [c] ∨
      ((97 ≤ c.toNat ∧ c.toNat ≤ 122) ∧ upperChar c = [Char.ofNat (c.toNat - 32)]) ∨
      (c = ligature ∧ upperChar c = ['F', 'F']) ∨
      '\n' ∉ upperChar c ∧ ∃ d ∈ upperChar c, d.toNat = 0 ∨ 70 < d.toNat := by
  unfold upperChar
  dsimp only
  split
  · next cs hcs =>
    obtain ⟨before, after, hl, -⟩ := List.lookup_eq_some_iff.mp hcs
    have hmem : (c.toNat, cs) ∈ upperExpansions := by
      rw [hl]
      simp
    rcases upperExpansions_beyond _ hmem with he | ⟨hn, d, hd, hbeyond⟩
    · obtain ⟨hc, rfl⟩ := Prod.mk.inj he
      refine Or.inr (Or.inr (Or.inl ⟨?_, rfl⟩))
      rw [← Char.ofNat_toNat c, hc]
      rfl
    · exact Or.inr (Or.inr (Or.inr ⟨hn, d, hd, Or.inr hbeyond⟩))
  · split
    · next r hr =>
      have hin := List.find?_some hr
      simp only [Bool.and_eq_true, decide_eq_true_eq] at hin
      rcases upperRuns_beyond r (List.mem_of_find?_eq_some hr) with rfl | hbeyond
      · refine Or.inr (Or.inl ⟨hin.1, ?_⟩)
        dsimp only at hin ⊢
        congr 2
        omega
      · refine Or.inr (Or.inr (Or.inr ?_))
        generalize hm : ((c.toNat : Int) + r.2.2.2).toNat = m
        have hm70 : 70 < m := by omega
        have hd : (Char.ofNat m).toNat = 0 ∨ 70 < (Char.ofNat m).toNat := by
          by_cases hv : m.isValidChar
          · rw [toNat_ofNat hv]
            exact Or.inr hm70
          · rw [Char.ofNat, dif_neg hv]
            exact Or.inl rfl
        refine ⟨fun hn => ?_, _, List.mem_singleton.mpr rfl, hd⟩
        rw [← List.mem_singleton.mp hn] at hd
        revert hd
        decide
    · exact Or.inl rfl

theorem upperChar_ne_nil (c : Char) : upperChar c ≠ [] := by
  rcases upperChar_cases c with h | ⟨-, h⟩ | ⟨-, h⟩ | ⟨-, d, hd, -⟩
  · rw [h]
    exact List.cons_ne_nil _ _
  · rw [h]
    exact List.cons_ne_nil _ _
  · rw [h]
    exact List.cons_ne_nil _ _
  · exact List.ne_nil_of_mem hd

/-- Nothing but a line break has one in its upper case. -/
theorem eq_of_mem_upperChar {c : Char} (h : '\n' ∈ upperChar c) : c = '\n' := by
  rcases upperChar_cases c with hc | ⟨hrange, hc⟩ | ⟨-, hc⟩ | ⟨hn, -⟩
  · rw [hc] at h
    exact (List.mem_singleton.mp h).symm
  · rw [hc] at h
    have hn : (Char.ofNat (c.toNat - 32)).toNat = c.toNat - 32 :=
      toNat_ofNat (Or.inl (by omega))
    rw [← List.mem_singleton.mp h] at hn
    change 10 = c.toNat - 32 at hn
    omega
  · rw [hc] at h
    exact absurd h (by decide)
  · exact absurd h hn

theorem upper_append (a b : List Char) : upper (a ++ b) = upper a ++ upper b := by
  simp [upper]

/-- A text whose upper case ends in a line break ends in one. -/
theorem getLast?_of_upper {cs : List Char} (h : (upper cs).getLast? = some '\n') :
    cs.getLast? = some '\n' := by
  rcases List.eq_nil_or_concat cs with rfl | ⟨front, c, rfl⟩
  · cases h
  · rw [List.concat_eq_append] at h ⊢
    have hlast : (upperChar c).getLast? = some ((upperChar c).getLast (upperChar_ne_nil c)) :=
      List.getLast?_eq_some_getLast _
    rw [upper_append, show upper [c] = upperChar c from List.flatMap_singleton ..,
      List.getLast?_append, hlast, Option.some_or, ← hlast] at h
    rw [List.getLast?_concat, eq_of_mem_upperChar (List.mem_of_getLast? h)]

end BluetoothControl.Text
