import BluetoothControl.Proofs.DevicePath

/-!
# Spellings of addresses

An address is spelled as six pairs of hexadecimal digits in either case, with single colons between
them and blanks around them.  A text is checked once it is in upper case, and the upper case of one
ligature is two digits: what is accepted is exactly six groups, each of them a pair or the ligature
(`normalize_eq_ok_iff`).
-/

namespace BluetoothControl.Address

open BluetoothControl.Text

/-! ## The grammar -/

/-- A hexadecimal digit in either case. -/
def isHexDigit (c : Char) : Bool := isUpperHex c || ('a' ≤ c && c ≤ 'f')

/-- Two hexadecimal digits. -/
def IsPair (group : List Char) : Prop :=
  ∃ a b, group = [a, b] ∧ isHexDigit a = true ∧ isHexDigit b = true

/-- What turns into two digits in upper case: a pair, or the ligature. -/
def IsLoosePair (group : List Char) : Prop := IsPair group ∨ group = [ligature]

/-- Groups of a kind with single colons between them. -/
def Joins (IsGroup : List Char → Prop) (count : Nat) (cs : List Char) : Prop :=
  ∃ groups, groups.length = count ∧ (∀ group ∈ groups, IsGroup group) ∧
    cs = [':'].intercalate groups

/-- An address as it is to be spelled: six pairs with single colons between them. -/
def IsSpelling (cs : List Char) : Prop := Joins IsPair 6 cs

/-- An address as it can be spelled: the ligature may stand for a pair. -/
def IsLooseSpelling (cs : List Char) : Prop := Joins IsLoosePair 6 cs

/-- The upper case of a character of a spelling. -/
def raise (c : Char) : List Char := if c = ligature then ['F', 'F'] else [c.toUpper]

/-- Two texts that differ in nothing but the blanks around them and the case of ASCII letters. -/
def Alike (s t : String) : Prop :=
  (trim s.toList).map Char.toLower = (trim t.toList).map Char.toLower

instance (s t : String) : Decidable (Alike s t) :=
  inferInstanceAs (Decidable ((trim s.toList).map Char.toLower = (trim t.toList).map Char.toLower))

/-- A text is read by the grammar: with the blanks around it off it is accepted just if it is a
spelling, as that spelling with its letters raised, and refused as a bad value otherwise. -/
def FollowsGrammar (s : String) : Prop :=
  (∀ a, normalize s = .ok a ↔
    IsSpelling (trim s.toList) ∧ a = String.ofList ((trim s.toList).map Char.toUpper)) ∧
  (¬ IsSpelling (trim s.toList) → ∃ f, normalize s = .error f ∧ f.kind = .badValue)

/-! ## Digits and their upper case -/

theorem toNat_of_isHexDigit {c : Char} (h : isHexDigit c = true) :
    48 ≤ c.toNat ∧ c.toNat ≤ 57 ∨ 65 ≤ c.toNat ∧ c.toNat ≤ 70 ∨ 97 ≤ c.toNat ∧ c.toNat ≤ 102 := by
  unfold isHexDigit at h
  rw [Bool.or_eq_true] at h
  rcases h with h | h
  · have := toNat_of_isUpperHex h
    omega
  · simp only [Bool.and_eq_true, decide_eq_true_eq] at h
    exact Or.inr (Or.inr h)

/-- A digit has one digit as its upper case. -/
theorem upperChar_of_isHexDigit {c : Char} (h : isHexDigit c = true) :
    upperChar c = [c.toUpper] ∧ isUpperHex c.toUpper = true ∧ c ≠ ligature ∧ c ≠ ':' := by
  have hall : ∀ n ∈ List.range' 48 10 ++ List.range' 65 6 ++ List.range' 97 6,
      upperChar (Char.ofNat n) = [(Char.ofNat n).toUpper] ∧
        isUpperHex (Char.ofNat n).toUpper = true ∧ Char.ofNat n ≠ ligature ∧
        Char.ofNat n ≠ ':' := by decide +kernel
  have hn := toNat_of_isHexDigit h
  have hc := hall c.toNat (by
    simp only [List.mem_append, List.mem_range'_1]
    omega)
  rwa [Char.ofNat_toNat] at hc

/-! ### A spelling in upper case, character by character -/

theorem upper_cons_of_isHexDigit {c : Char} (h : isHexDigit c = true) (cs : List Char) :
    upper (c :: cs) = c.toUpper :: upper cs := by
  unfold upper
  rw [List.flatMap_cons, (upperChar_of_isHexDigit h).1, List.singleton_append]

theorem upper_cons_colon (cs : List Char) : upper (':' :: cs) = ':' :: upper cs := by
  unfold upper
  rw [List.flatMap_cons, show upperChar ':' = [':'] by decide +kernel, List.singleton_append]

theorem upper_cons_ligature (cs : List Char) :
    upper (ligature :: cs) = 'F' :: 'F' :: upper cs := by
  unfold upper
  rw [List.flatMap_cons, show upperChar ligature = ['F', 'F'] by decide +kernel]
  rfl

theorem eq_nil_of_upper {cs : List Char} (h : upper cs = []) : cs = [] := by
  cases cs with
  | nil => rfl
  | cons c rest => exact absurd (List.append_eq_nil_iff.mp h).1 (upperChar_ne_nil c)

/-- What the upper case of a character can be where it is a part of a canonical address. -/
theorem upperChar_of_mem {c : Char} (h : ∀ d ∈ upperChar c, isUpperHex d = true ∨ d = ':') :
    c = ligature ∨ isHexDigit c = true ∨ c = ':' := by
  rcases upperChar_cases c with hc | ⟨hletter, hc⟩ | ⟨hc, -⟩ | ⟨-, d, hd, hbeyond⟩
  · rcases h c (hc ▸ List.mem_singleton.mpr rfl) with hd | hd
    · exact Or.inr (Or.inl (by rw [isHexDigit, hd, Bool.true_or]))
    · exact Or.inr (Or.inr hd)
  · have hn : (Char.ofNat (c.toNat - 32)).toNat = c.toNat - 32 := toNat_ofNat (Or.inl (by omega))
    rcases h _ (hc ▸ List.mem_singleton.mpr rfl) with hd | hd
    · have hle : c.toNat ≤ 102 := by
        have := toNat_of_isUpperHex hd
        omega
      have hhex : ('a' ≤ c && c ≤ 'f') = true := by
        simp only [Bool.and_eq_true, decide_eq_true_eq]
        exact ⟨hletter.1, hle⟩
      exact Or.inr (Or.inl (by rw [isHexDigit, hhex, Bool.or_true]))
    · rw [hd] at hn
      change 58 = c.toNat - 32 at hn
      omega
  · exact Or.inl hc
  · rcases h d hd with hd | rfl
    · have := toNat_of_isUpperHex hd
      omega
    · exact absurd hbeyond (by decide)

/-! ## What is accepted -/

theorem intercalate_cons_eq (group : List Char) (groups : List (List Char)) :
    [':'].intercalate (group :: groups) = group ++ groups.flatMap (':' :: ·) := by
  induction groups generalizing group with
  | nil => simp [List.intercalate]
  | cons next rest ih => rw [List.intercalate_cons_cons, ih]; simp

/-- A group turns into two digits. -/
theorem upper_of_isLoosePair {group : List Char} (h : IsLoosePair group) :
    ∃ a b, upper group = [a, b] ∧ isUpperHex a = true ∧ isUpperHex b = true := by
  rcases h with ⟨a, b, rfl, ha, hb⟩ | rfl
  · refine ⟨a.toUpper, b.toUpper, ?_, (upperChar_of_isHexDigit ha).2.1,
      (upperChar_of_isHexDigit hb).2.1⟩
    rw [upper_cons_of_isHexDigit ha, upper_cons_of_isHexDigit hb]
    rfl
  · exact ⟨'F', 'F', upper_cons_ligature [], by decide, by decide⟩

theorem isTail_upper {groups : List (List Char)} (h : ∀ group ∈ groups, IsLoosePair group) :
    isTail groups.length (upper (groups.flatMap (':' :: ·))) = true := by
  induction groups with
  | nil => rfl
  | cons group rest ih =>
    obtain ⟨a, b, hg, ha, hb⟩ := upper_of_isLoosePair (h group List.mem_cons_self)
    have hrest := ih fun g hg => h g (List.mem_cons_of_mem _ hg)
    rw [List.flatMap_cons, List.cons_append, upper_cons_colon, upper_append, hg]
    simp only [List.length_cons, List.cons_append, List.nil_append, isTail, ha, hb, hrest,
      Bool.and_self]

/-- Two digits at the front of an upper case, nothing or a colon after them, come from one group:
the ligature cannot stand across, for its second half would have to be the colon. -/
theorem group_of_upper {cs more : List Char} {a b : Char}
    (hcs : ∀ c ∈ cs, c = ligature ∨ isHexDigit c = true ∨ c = ':')
    (h : upper cs = a :: b :: more) (ha : isUpperHex a = true) (hb : isUpperHex b = true)
    (hmore : more = [] ∨ more.head? = some ':') :
    ∃ group rest, cs = group ++ rest ∧ IsLoosePair group ∧ upper rest = more := by
  cases cs with
  | nil => cases h
  | cons c rest =>
    rcases hcs c List.mem_cons_self with rfl | hc | rfl
    · rw [upper_cons_ligature] at h
      simp only [List.cons.injEq] at h
      exact ⟨[ligature], rest, rfl, Or.inr rfl, h.2.2⟩
    · rw [upper_cons_of_isHexDigit hc] at h
      obtain ⟨-, hrest⟩ := List.cons.inj h
      cases rest with
      | nil => cases hrest
      | cons d rest' =>
        rcases hcs d (List.mem_cons_of_mem _ List.mem_cons_self) with rfl | hd | rfl
        · rw [upper_cons_ligature] at hrest
          obtain ⟨-, rfl⟩ := List.cons.inj hrest
          rcases hmore with hnil | hhead
          · cases hnil
          · cases hhead
        · rw [upper_cons_of_isHexDigit hd] at hrest
          exact ⟨[c, d], rest', rfl, Or.inl ⟨c, d, rfl, hc, hd⟩, (List.cons.inj hrest).2⟩
        · rw [upper_cons_colon] at hrest
          rw [← (List.cons.inj hrest).1] at hb
          exact absurd hb (by decide)
    · rw [upper_cons_colon] at h
      rw [← (List.cons.inj h).1] at ha
      exact absurd ha (by decide)

theorem head_of_isTail {count : Nat} {cs : List Char} (h : isTail count cs = true) :
    cs = [] ∨ cs.head? = some ':' := by
  fun_induction isTail count cs with
  | case1 cs => exact Or.inl (List.isEmpty_iff.mp h)
  | case2 => exact Or.inr rfl
  | case3 => cases h

theorem of_isTail_succ {count : Nat} {cs : List Char} (h : isTail (count + 1) cs = true) :
    ∃ a b more, cs = ':' :: a :: b :: more ∧ isUpperHex a = true ∧ isUpperHex b = true ∧
      isTail count more = true := by
  unfold isTail at h
  split at h
  · next hzero => cases hzero
  · next hcount =>
    cases hcount
    simp only [Bool.and_eq_true] at h
    exact ⟨_, _, _, rfl, h.1.1, h.1.2, h.2⟩
  · cases h

/-- Only a colon is one in upper case. -/
theorem colon_of_upper {cs more : List Char}
    (hcs : ∀ c ∈ cs, c = ligature ∨ isHexDigit c = true ∨ c = ':') (h : upper cs = ':' :: more) :
    ∃ rest, cs = ':' :: rest ∧ upper rest = more := by
  cases cs with
  | nil => cases h
  | cons c rest =>
    rcases hcs c List.mem_cons_self with rfl | hc | rfl
    · rw [upper_cons_ligature] at h
      exact absurd (List.cons.inj h).1 (by decide)
    · rw [upper_cons_of_isHexDigit hc] at h
      have hdigit := (upperChar_of_isHexDigit hc).2.1
      rw [(List.cons.inj h).1] at hdigit
      exact absurd hdigit (by decide)
    · rw [upper_cons_colon] at h
      exact ⟨rest, rfl, (List.cons.inj h).2⟩

/-- Groups with colons before them, group by group from the front. -/
theorem groups_of_isTail {count : Nat} {cs : List Char}
    (hcs : ∀ c ∈ cs, c = ligature ∨ isHexDigit c = true ∨ c = ':')
    (h : isTail count (upper cs) = true) :
    ∃ groups : List (List Char), groups.length = count ∧ (∀ group ∈ groups, IsLoosePair group) ∧
      cs = groups.flatMap (':' :: ·) := by
  induction count generalizing cs with
  | zero =>
    rw [eq_nil_of_upper (List.isEmpty_iff.mp h)]
    exact ⟨[], rfl, fun g hg => absurd hg List.not_mem_nil, rfl⟩
  | succ count ih =>
    obtain ⟨a, b, more, hu, ha, hb, hmore⟩ := of_isTail_succ h
    obtain ⟨rest, rfl, hrest⟩ := colon_of_upper hcs hu
    obtain ⟨group, after, rfl, hgroup, rfl⟩ := group_of_upper
      (fun d hd => hcs d (List.mem_cons_of_mem _ hd)) hrest ha hb (head_of_isTail hmore)
    obtain ⟨groups, hl, hgroups, rfl⟩ := ih
      (fun d hd => hcs d (List.mem_cons_of_mem _ (List.mem_append_right _ hd))) hmore
    exact ⟨group :: groups, by rw [List.length_cons, hl],
      List.forall_mem_cons.mpr ⟨hgroup, hgroups⟩, by simp⟩

/-- What is canonical in upper case is six groups. -/
theorem isCanonical_upper_iff (cs : List Char) :
    isCanonical (upper cs) = true ↔ IsLooseSpelling cs := by
  constructor
  · intro h
    have hcs : ∀ c ∈ cs, c = ligature ∨ isHexDigit c = true ∨ c = ':' := fun c hc =>
      upperChar_of_mem fun d hd => mem_of_isCanonical h (List.mem_flatMap.mpr ⟨c, hc, hd⟩)
    unfold isCanonical at h
    split at h
    · next a b more hu =>
      simp only [Bool.and_eq_true] at h
      obtain ⟨group, after, rfl, hgroup, rfl⟩ :=
        group_of_upper hcs hu h.1.1 h.1.2 (head_of_isTail h.2)
      obtain ⟨groups, hl, hgroups, rfl⟩ :=
        groups_of_isTail (fun d hd => hcs d (List.mem_append_right _ hd)) h.2
      exact ⟨group :: groups, by rw [List.length_cons, hl],
        List.forall_mem_cons.mpr ⟨hgroup, hgroups⟩, (intercalate_cons_eq group groups).symm⟩
    · cases h
  · rintro ⟨groups, hl, hgroups, rfl⟩
    cases groups with
    | nil => cases hl
    | cons group rest =>
      obtain ⟨hgroup, hrest⟩ := List.forall_mem_cons.mp hgroups
      obtain ⟨a, b, hg, ha, hb⟩ := upper_of_isLoosePair hgroup
      have htail := isTail_upper hrest
      rw [Nat.succ.inj hl] at htail
      rw [intercalate_cons_eq, upper_append, hg]
      simp only [List.cons_append, List.nil_append, isCanonical, ha, hb, htail, Bool.and_self]

theorem mem_of_joins {IsGroup : List Char → Prop} {count : Nat} {cs : List Char}
    (h : Joins IsGroup count cs) {c : Char} (hc : c ∈ cs) :
    c = ':' ∨ ∃ group, IsGroup group ∧ c ∈ group := by
  obtain ⟨groups, -, hgroups, rfl⟩ := h
  cases groups with
  | nil => cases hc
  | cons group rest =>
    rw [intercalate_cons_eq] at hc
    rcases List.mem_append.mp hc with hc | hc
    · exact Or.inr ⟨group, hgroups group List.mem_cons_self, hc⟩
    · obtain ⟨g, hg, hcg⟩ := List.mem_flatMap.mp hc
      rcases List.mem_cons.mp hcg with rfl | hcg
      · exact Or.inl rfl
      · exact Or.inr ⟨g, hgroups g (List.mem_cons_of_mem _ hg), hcg⟩

theorem isHexDigit_of_mem {group : List Char} (h : IsPair group) {c : Char} (hc : c ∈ group) :
    isHexDigit c = true := by
  obtain ⟨a, b, rfl, ha, hb⟩ := h
  simp only [List.mem_cons, List.not_mem_nil, or_false] at hc
  rcases hc with rfl | rfl
  · exact ha
  · exact hb

theorem mem_of_isSpelling {cs : List Char} (h : IsSpelling cs) {c : Char} (hc : c ∈ cs) :
    c = ':' ∨ isHexDigit c = true := by
  rcases mem_of_joins h hc with hcolon | ⟨group, hpair, hcg⟩
  · exact Or.inl hcolon
  · exact Or.inr (isHexDigit_of_mem hpair hcg)

/-- Only the ligature tells the two grammars apart. -/
theorem isSpelling_iff (cs : List Char) :
    IsSpelling cs ↔ IsLooseSpelling cs ∧ ligature ∉ cs := by
  constructor
  · intro h
    refine ⟨?_, fun hlig => ?_⟩
    · obtain ⟨groups, hl, hgroups, hcs⟩ := h
      exact ⟨groups, hl, fun g hg => Or.inl (hgroups g hg), hcs⟩
    · rcases mem_of_isSpelling h hlig with hcolon | hdigit
      · exact absurd hcolon (by decide)
      · exact absurd hdigit (by decide)
  · rintro ⟨⟨groups, hl, hgroups, rfl⟩, hlig⟩
    refine ⟨groups, hl, fun g hg => ?_, rfl⟩
    rcases hgroups g hg with hpair | rfl
    · exact hpair
    · refine absurd ?_ hlig
      cases groups with
      | nil => cases hg
      | cons group rest =>
        rw [intercalate_cons_eq]
        rcases List.mem_cons.mp hg with rfl | hg
        · exact List.mem_append_left _ (List.mem_singleton.mpr rfl)
        · exact List.mem_append_right _ (List.mem_flatMap.mpr
            ⟨_, hg, List.mem_cons_of_mem _ (List.mem_singleton.mpr rfl)⟩)

/-- In upper case the ligatures are letters and the letters are raised. -/
theorem upper_of_isLooseSpelling {cs : List Char} (h : IsLooseSpelling cs) :
    upper cs = cs.flatMap raise := by
  unfold upper
  rw [List.flatMap_def, List.flatMap_def]
  refine congrArg List.flatten (List.map_congr_left fun c hc => ?_)
  unfold raise
  rcases mem_of_joins h hc with rfl | ⟨group, hgroup, hcg⟩
  · decide +kernel
  · rcases hgroup with hpair | rfl
    · obtain ⟨hup, -, hne, -⟩ := upperChar_of_isHexDigit (isHexDigit_of_mem hpair hcg)
      rw [if_neg hne, hup]
    · rw [List.mem_singleton.mp hcg]
      decide +kernel

theorem flatMap_raise {cs : List Char} (h : ligature ∉ cs) :
    cs.flatMap raise = cs.map Char.toUpper := by
  induction cs with
  | nil => rfl
  | cons c rest ih =>
    obtain ⟨hc, hrest⟩ := not_or.mp (mt List.mem_cons.mpr h)
    rw [List.flatMap_cons, ih hrest, raise, if_neg (Ne.symm hc), List.map_cons,
      List.singleton_append]

/-- What the canonical form of a text is, and when there is one. -/
theorem normalize_eq (s : String) :
    normalize s = if isCanonical (upper (trim s.toList)) then
      .ok (String.ofList (upper (trim s.toList))) else .error (.malformedAddress s) := by
  unfold normalize
  rw [canonical?_eq]
  by_cases hcanon : isCanonical (upper (trim s.toList)) = true
  · rw [if_pos hcanon, if_pos hcanon]
  · rw [if_neg hcanon, if_neg hcanon]

theorem normalize_eq_ok_iff (s a : String) :
    normalize s = .ok a ↔
      IsLooseSpelling (trim s.toList) ∧ a = String.ofList ((trim s.toList).flatMap raise) := by
  rw [normalize_eq, ← isCanonical_upper_iff]
  constructor
  · intro h
    split at h
    · next hcanon =>
      rw [← upper_of_isLooseSpelling ((isCanonical_upper_iff _).mp hcanon)]
      exact ⟨hcanon, (Except.ok.inj h).symm⟩
    · cases h
  · rintro ⟨hcanon, rfl⟩
    rw [if_pos hcanon, upper_of_isLooseSpelling ((isCanonical_upper_iff _).mp hcanon)]

theorem normalize_eq_error {s : String} (h : ¬ IsLooseSpelling (trim s.toList)) :
    normalize s = .error (.malformedAddress s) := by
  rw [normalize_eq, if_neg (mt (isCanonical_upper_iff _).mp h)]

/-- For every text: it is accepted just if it is a spelling in which ligatures may stand for pairs,
as that spelling raised, and refused as a malformed address otherwise.  So it is read by the grammar
exactly if no ligature stands for a pair in it. -/
theorem followsGrammar_iff (s : String) :
    (∀ a, normalize s = .ok a ↔
      IsLooseSpelling (trim s.toList) ∧ a = String.ofList ((trim s.toList).flatMap raise)) ∧
    (¬ IsLooseSpelling (trim s.toList) → normalize s = .error (.malformedAddress s)) ∧
    (FollowsGrammar s ↔ (IsLooseSpelling (trim s.toList) → ligature ∉ trim s.toList)) := by
  refine ⟨normalize_eq_ok_iff s, normalize_eq_error, ?_, ?_⟩
  · rintro ⟨hok, -⟩ hloose
    have hread := (normalize_eq_ok_iff s _).mpr ⟨hloose, rfl⟩
    exact ((isSpelling_iff _).mp ((hok _).mp hread).1).2
  · intro hlig
    refine ⟨fun a => ?_, fun hspelling => ?_⟩
    · rw [normalize_eq_ok_iff, isSpelling_iff]
      constructor
      · rintro ⟨hloose, ha⟩
        exact ⟨⟨hloose, hlig hloose⟩, flatMap_raise (hlig hloose) ▸ ha⟩
      · rintro ⟨⟨hloose, hno⟩, ha⟩
        exact ⟨hloose, (flatMap_raise hno).symm ▸ ha⟩
    · refine ⟨.malformedAddress s, normalize_eq_error fun hloose => ?_, rfl⟩
      exact hspelling ((isSpelling_iff _).mpr ⟨hloose, hlig hloose⟩)

/-- A spelling with blanks around it, and a text that is too short for one. -/
theorem followsGrammar_iff_blanks :
    FollowsGrammar " aa:Bb:cc:dd:ee:0F\n" ∧
      normalize "aa:bb" = .error (.malformedAddress "aa:bb") := by
  refine ⟨(followsGrammar_iff _).2.2.mpr fun _ => by decide +kernel,
    (followsGrammar_iff "aa:bb").2.1 (mt (isCanonical_upper_iff _).mpr ?_)⟩
  decide +kernel

/-- A ligature and five pairs are accepted, though that is no spelling. -/
theorem not_followsGrammar_of_ligature : ¬ FollowsGrammar "ﬀ:BB:CC:DD:EE:FF" := by
  rintro ⟨hok, -⟩
  have hcanon : isCanonical (upper (trim "ﬀ:BB:CC:DD:EE:FF".toList)) = true := by decide +kernel
  have hread := (normalize_eq "ﬀ:BB:CC:DD:EE:FF").trans (if_pos hcanon)
  have htrim : ligature ∈ trim "ﬀ:BB:CC:DD:EE:FF".toList := by decide +kernel
  exact ((isSpelling_iff _).mp ((hok _).mp hread).1).2 htrim

/-! ## Texts alike -/

/-- An ASCII letter in lower case differs from the letter in neither its upper case nor its being
blank. -/
theorem upperChar_toLower (c : Char) :
    upperChar c.toLower = upperChar c ∧ isBlank c.toLower = isBlank c := by
  have hall : ∀ n ∈ List.range' 65 26,
      upperChar (Char.ofNat n).toLower = upperChar (Char.ofNat n) ∧
        isBlank (Char.ofNat n).toLower = isBlank (Char.ofNat n) := by decide +kernel
  by_cases hc : 65 ≤ c.toNat ∧ c.toNat ≤ 90
  · have h := hall c.toNat (by
      rw [List.mem_range'_1]
      omega)
    rwa [Char.ofNat_toNat] at h
  · have hlower : c.toLower = c := dif_neg hc
    rw [hlower]
    exact ⟨rfl, rfl⟩

theorem upper_map_toLower (cs : List Char) : upper (cs.map Char.toLower) = upper cs := by
  unfold upper
  rw [List.flatMap_map]
  exact congrArg (cs.flatMap ·) (funext fun c => (upperChar_toLower c).1)

/-- Blanks around a text and the case of its letters make it no other. -/
theorem alike_of_surrounded {s : String} {before core after : List Char}
    (hb : ∀ c ∈ before, isBlank c = true) (ha : ∀ c ∈ after, isBlank c = true)
    (hcore : core.map Char.toLower = s.toList.map Char.toLower) :
    Alike (String.ofList (before ++ core ++ after)) s := by
  have hblank : ∀ c : Char, isBlank c.toLower = isBlank c := fun c => (upperChar_toLower c).2
  unfold Alike
  rw [String.toList_ofList, trim_surrounded hb ha, ← trim_map hblank, ← trim_map hblank, hcore]

/-- Texts alike are accepted together, as one address. -/
theorem normalize_of_alike {s t : String} (h : Alike s t) :
    (normalize s).toOption = (normalize t).toOption := by
  have hupper : upper (trim s.toList) = upper (trim t.toList) := by
    rw [← upper_map_toLower (trim s.toList), ← upper_map_toLower (trim t.toList), h]
  rw [normalize_eq, normalize_eq, hupper]
  split <;> rfl

/-- The characters of a canonical address are not blank. -/
theorem isBlank_of_isCanonical {cs : List Char} (h : isCanonical cs = true) :
    ∀ c ∈ cs, isBlank c = false := by
  intro c hc
  rcases mem_of_isCanonical h hc with hd | rfl
  · have := toNat_of_isUpperHex hd
    simp only [isBlank, Bool.or_eq_false_iff, Bool.and_eq_false_iff, decide_eq_false_iff_not,
      beq_eq_false_iff_ne]
    omega
  · decide

/-- The canonical form is its own. -/
theorem canonical?_of_isCanonical {cs : List Char} (h : isCanonical cs = true) :
    canonical? cs = some cs := by
  rw [canonical?_eq, trim_eq_self (isBlank_of_isCanonical h), upper_of_isCanonical h, if_pos h]

/-- The canonical form is accepted as it is. -/
theorem normalize_of_isCanonical {a : String} (h : isCanonical a.toList = true) :
    normalize a = .ok a := by
  unfold normalize
  rw [canonical?_of_isCanonical h]
  exact congrArg Except.ok String.ofList_toList

end BluetoothControl.Address
