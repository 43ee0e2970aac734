/-!
# Lines

A text is cut into lines at every line break of Unicode; carriage return followed by line feed is
one break, and a break at the very end starts no further line.
-/

namespace BluetoothControl.Text

/-! ## Algorithm -/

/-- The characters that end a line: line feed, vertical tab, form feed, carriage return, the file,
group and record separators, next line, and the line and paragraph separators. -/
def isLineBreak (c : Char) : Bool :=
  let n := c.toNat
  (0xA ≤ n && n ≤ 0xD) || (0x1C ≤ n && n ≤ 0x1E) || n == 0x85 || n == 0x2028 || n == 0x2029

/-- Puts a character in front of the first line. -/
def pushChar (c : Char) : List (List Char) → List (List Char)
  | [] => [[c]]
  | line :: rest => (c :: line) :: rest

/-- The lines of a text, without their breaks. -/
def lines : List Char → List (List Char)
  | [] => []
  | '\r' :: '\n' :: rest => [] :: lines rest
  | c :: rest => if isLineBreak c then [] :: lines rest else pushChar c (lines rest)

/-! ## Lemmas -/

theorem lines_nil : lines [] = [] := rfl

theorem lines_crlf (rest : List Char) : lines ('\r' :: '\n' :: rest) = [] :: lines rest := by
  simp [lines]

theorem lines_lf (rest : List Char) : lines ('\n' :: rest) = [] :: lines rest := by
  simp [lines, isLineBreak]

theorem lines_break {c : Char} (hc : isLineBreak c = true) {rest : List Char}
    (hrest : ∀ more, c = '\r' → rest ≠ '\n' :: more) : lines (c :: rest) = [] :: lines rest := by
  rw [lines.eq_3 c rest hrest, if_pos hc]

theorem lines_cons {c : Char} (hc : isLineBreak c = false) (rest : List Char) :
    lines (c :: rest) = pushChar c (lines rest) := by
  have hcr : c ≠ '\r' := by
    rintro rfl
    exact absurd hc (by decide)
  simp [lines, hcr, hc]

/-- A line with a line feed after it is the first line of the text. -/
theorem lines_append {line : List Char} (h : ∀ c ∈ line, isLineBreak c = false)
    (rest : List Char) : lines (line ++ '\n' :: rest) = line :: lines rest := by
  induction line with
  | nil => exact lines_lf rest
  | cons c cs ih =>
    rw [List.cons_append, lines_cons (h c List.mem_cons_self),
      ih fun d hd => h d (List.mem_cons_of_mem c hd)]
    rfl

/-- Lines with a line feed after each are the lines of the text. -/
theorem lines_flatMap {ls : List (List Char)} (h : ∀ line ∈ ls, ∀ c ∈ line, isLineBreak c = false) :
    lines (ls.flatMap (· ++ ['\n'])) = ls := by
  induction ls with
  | nil => rfl
  | cons line rest ih =>
    rw [List.flatMap_cons, List.append_assoc, List.singleton_append,
      lines_append (h line List.mem_cons_self),
      ih fun other ho => h other (List.mem_cons_of_mem line ho)]

theorem lines_ne_nil {cs : List Char} (h : cs ≠ []) : lines cs ≠ [] := by
  fun_cases lines cs with
  | case1 => exact absurd rfl h
  | case2 rest => exact List.cons_ne_nil _ _
  | case3 c rest hcrlf hc => exact List.cons_ne_nil _ _
  | case4 c rest hcrlf hc =>
    cases lines rest <;> exact List.cons_ne_nil _ _

theorem pushChar_append {ls : List (List Char)} (h : ls ≠ []) (c : Char) (ms : List (List Char)) :
    pushChar c (ls ++ ms) = pushChar c ls ++ ms := by
  cases ls with
  | nil => exact absurd rfl h
  | cons line rest => rfl

/-- The lines of two texts with a line feed between them are the lines of the one and of the other,
with at most a blank line between: where the first text ends its last line itself, the line feed
makes up one, but if it ends in a carriage return. -/
theorem lines_append_lf (cs ds : List Char) :
    ∃ gap, (∀ line ∈ gap, line = []) ∧
      lines (cs ++ '\n' :: ds) = lines cs ++ (gap ++ lines ds) := by
  induction cs using lines.induct with
  | case1 => exact ⟨[[]], by simp, lines_lf ds⟩
  | case2 rest ih =>
    obtain ⟨gap, hgap, hlines⟩ := ih
    refine ⟨gap, hgap, ?_⟩
    rw [List.cons_append, List.cons_append, lines_crlf, lines_crlf, hlines]
    rfl
  | case3 c rest hcrlf hc ih =>
    by_cases hend : c = '\r' ∧ rest = []
    · -- carriage return and line feed are one break
      obtain ⟨rfl, rfl⟩ := hend
      exact ⟨[], by simp, lines_crlf ds⟩
    · obtain ⟨gap, hgap, hlines⟩ := ih
      refine ⟨gap, hgap, ?_⟩
      rw [List.cons_append, lines_break hc, lines_break hc hcrlf, hlines]
      · rfl
      · intro more hcr happend
        cases rest with
        | nil => exact hend ⟨hcr, rfl⟩
        | cons d rest =>
          have hd : d = '\n' := (List.cons.inj happend).1
          exact hcrlf rest hcr (by rw [hd])
  | case4 c rest hcrlf hc ih =>
    have hc' : isLineBreak c = false := by simpa using hc
    cases rest with
    | nil =>
      refine ⟨[], by simp, ?_⟩
      rw [List.singleton_append, lines_cons hc', lines_lf, lines_cons hc']
      rfl
    | cons d rest =>
      obtain ⟨gap, hgap, hlines⟩ := ih
      refine ⟨gap, hgap, ?_⟩
      rw [List.cons_append, lines_cons hc', hlines, pushChar_append (lines_ne_nil (by simp)),
        lines_cons hc']

theorem mem_pushChar {c : Char} {ls : List (List Char)} {line : List Char}
    (h : line ∈ pushChar c ls) : line ∈ ls ∨ ∃ rest ∈ [] :: ls, line = c :: rest := by
  cases ls with
  | nil => exact Or.inr ⟨[], by simp, by simpa [pushChar] using h⟩
  | cons first more =>
    rcases List.mem_cons.mp h with rfl | h
    · exact Or.inr ⟨first, by simp, rfl⟩
    · exact Or.inl (List.mem_cons_of_mem first h)

/-- No line has a line break in it. -/
theorem isLineBreak_of_mem_lines {cs line : List Char} (h : line ∈ lines cs) :
    ∀ c ∈ line, isLineBreak c = false := by
  induction cs using lines.induct generalizing line with
  | case1 => simp [lines] at h
  | case2 rest ih =>
    rw [lines_crlf] at h
    rcases List.mem_cons.mp h with rfl | h
    · simp
    · exact ih h
  | case3 c rest hcrlf hc ih =>
    rw [lines_break hc hcrlf] at h
    rcases List.mem_cons.mp h with rfl | h
    · simp
    · exact ih h
  | case4 c rest hcrlf hc ih =>
    have hc' : isLineBreak c = false := by simpa using hc
    rw [lines_cons hc'] at h
    rcases mem_pushChar h with h | ⟨tail, htail, rfl⟩
    · exact ih h
    · intro d hd
      rcases List.mem_cons.mp hd with rfl | hd
      · exact hc'
      · rcases List.mem_cons.mp htail with rfl | htail
        · simp at hd
        · exact ih htail d hd

end BluetoothControl.Text
