/-!
# Separated texts

A text, or a string of bytes, with a separator in it: what stands before the first one, and what is
left from there on.
-/

namespace BluetoothControl.Text

variable {α : Type} [DecidableEq α] {separator : α} {front : List α}

theorem ne_of_separated (h : separator ∉ front) :
    ∀ c ∈ front, decide (c ≠ separator) = true := by
  intro c hc
  simp only [decide_eq_true_eq]
  rintro rfl
  exact h hc

theorem takeWhile_separated (h : separator ∉ front) (rest : List α) :
    (front ++ separator :: rest).takeWhile (· ≠ separator) = front := by
  rw [List.takeWhile_append_of_pos (ne_of_separated h), List.takeWhile_cons_of_neg (by simp),
    List.append_nil]

theorem dropWhile_separated (h : separator ∉ front) (rest : List α) :
    (front ++ separator :: rest).dropWhile (· ≠ separator) = separator :: rest := by
  rw [List.dropWhile_append_of_pos (ne_of_separated h), List.dropWhile_cons_of_neg (by simp)]

end BluetoothControl.Text
