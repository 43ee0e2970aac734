import BluetoothControl.Address
import BluetoothControl.ObjectPath

/-!
# Paths of devices

The path of a device is an object path if that of its adapter is one: a canonical address has
characters that a path element can have, once its colons are replaced.  No two canonical addresses
have one path, since the colons can be put back.
-/

namespace BluetoothControl

namespace Address

open BluetoothControl.Text

theorem mem_of_isTail {count : Nat} {cs : List Char} (h : isTail count cs = true) {c : Char}
    (hc : c ∈ cs) : isUpperHex c = true ∨ c = ':' := by
  fun_induction isTail count cs with
  | case1 cs =>
    rw [List.isEmpty_iff.mp h] at hc
    cases hc
  | case2 n a b rest ih =>
    simp only [Bool.and_eq_true] at h
    rcases List.mem_cons.mp hc with rfl | hc
    · exact Or.inr rfl
    · rcases List.mem_cons.mp hc with rfl | hc
      · exact Or.inl h.1.1
      · rcases List.mem_cons.mp hc with rfl | hc
        · exact Or.inl h.1.2
        · exact ih h.2 hc
  | case3 => cases h

/-- A canonical address consists of digits and colons. -/
theorem mem_of_isCanonical {cs : List Char} (h : isCanonical cs = true) {c : Char}
    (hc : c ∈ cs) : isUpperHex c = true ∨ c = ':' := by
  unfold isCanonical at h
  split at h
  · simp only [Bool.and_eq_true] at h
    rcases List.mem_cons.mp hc with rfl | hc
    · exact Or.inl h.1.1
    · rcases List.mem_cons.mp hc with rfl | hc
      · exact Or.inl h.1.2
      · exact mem_of_isTail h.2 hc
  · cases h

/-- A digit of a canonical address by its number. -/
theorem toNat_of_isUpperHex {c : Char} (h : isUpperHex c = true) :
    48 ≤ c.toNat ∧ c.toNat ≤ 57 ∨ 65 ≤ c.toNat ∧ c.toNat ≤ 70 := by
  simp only [isUpperHex, Bool.or_eq_true, Bool.and_eq_true, decide_eq_true_eq] at h
  exact h

/-- Digits are in upper case already. -/
theorem upperChar_of_isUpperHex {c : Char} (h : isUpperHex c = true) : upperChar c = [c] := by
  have hall : ∀ n ∈ List.range' 48 10 ++ List.range' 65 6,
      upperChar (Char.ofNat n) = [Char.ofNat n] := by decide +kernel
  have hn := toNat_of_isUpperHex h
  have hc := hall c.toNat (by
    simp only [List.mem_append, List.mem_range'_1]
    omega)
  rwa [Char.ofNat_toNat] at hc

theorem upper_of_isCanonical {cs : List Char} (h : isCanonical cs = true) : upper cs = cs := by
  have hone : ∀ c ∈ cs, upperChar c = [c] := by
    intro c hc
    rcases mem_of_isCanonical h hc with hd | rfl
    · exact upperChar_of_isUpperHex hd
    · decide +kernel
  unfold upper
  clear h
  induction cs with
  | nil => rfl
  | cons c rest ih =>
    rw [List.flatMap_cons, hone c List.mem_cons_self,
      ih fun d hd => hone d (List.mem_cons_of_mem _ hd)]
    rfl

theorem isCanonical_of_normalize {s a : String} (h : normalize s = .ok a) :
    isCanonical a.toList = true := by
  unfold normalize at h
  split at h
  · next cs hcs =>
    cases h
    rw [String.toList_ofList]
    exact isCanonical_of_canonical? hcs
  · cases h

end Address

namespace ObjectPath

open BluetoothControl.Text

theorem isElementChar_of_isUpperHex {c : Char} (h : Address.isUpperHex c = true) :
    isElementChar c = true := by
  simp only [Address.isUpperHex, Bool.or_eq_true, Bool.and_eq_true, decide_eq_true_eq] at h
  simp only [isElementChar, Bool.or_eq_true, Bool.and_eq_true, decide_eq_true_eq]
  rcases h with ⟨h0, h9⟩ | ⟨hA, hF⟩
  · exact Or.inl (Or.inr ⟨h0, h9⟩)
  · exact Or.inl (Or.inl (Or.inl ⟨hA, Char.le_trans hF (by decide)⟩))

theorem areElements_cons {c : Char} (hc : isElementChar c = true) (entered : Bool)
    (rest : List Char) : areElements entered (c :: rest) = areElements true rest := by
  have hn : c ≠ '\n' := by
    rintro rfl
    exact absurd hc (by decide)
  have hs : c ≠ '/' := by
    rintro rfl
    exact absurd hc (by decide)
  rw [areElements.eq_5]
  · rw [hc, Bool.true_and]
  · exact fun h _ => hn h
  · exact fun _ h _ => hn h
  · exact hs

/-- Elements consist of characters of theirs, slashes and line breaks. -/
theorem mem_of_areElements {entered : Bool} {cs : List Char} (h : areElements entered cs = true)
    {c : Char} (hc : c ∈ cs) : isElementChar c = true ∨ c = '/' ∨ c = '\n' := by
  fun_induction areElements entered cs with
  | case1 => cases hc
  | case2 =>
    rw [List.mem_singleton.mp hc]
    exact Or.inr (Or.inr rfl)
  | case3 entered rest ih =>
    rcases List.mem_cons.mp hc with rfl | hc
    · exact Or.inr (Or.inr rfl)
    · rcases List.mem_cons.mp hc with rfl | hc
      · exact Or.inr (Or.inl rfl)
      · exact ih (Bool.and_eq_true _ _ ▸ h).2 hc
  | case4 entered rest ih =>
    rcases List.mem_cons.mp hc with rfl | hc
    · exact Or.inr (Or.inl rfl)
    · exact ih (Bool.and_eq_true _ _ ▸ h).2 hc
  | case5 entered d rest _ _ _ ih =>
    rw [Bool.and_eq_true] at h
    rcases List.mem_cons.mp hc with rfl | hc
    · exact Or.inl h.1
    · exact ih h.2 hc

/-- So does an object path. -/
theorem mem_of_isValid {path : String} (h : isValid path = true) {c : Char}
    (hc : c ∈ path.toList) : isElementChar c = true ∨ c = '/' ∨ c = '\n' := by
  unfold isValid at h
  split at h
  · next hp =>
    rw [hp, List.mem_singleton] at hc
    exact Or.inr (Or.inl hc)
  · next rest hp =>
    rw [hp] at hc
    rcases List.mem_cons.mp hc with rfl | hc
    · exact Or.inr (Or.inl rfl)
    · exact mem_of_areElements h hc
  · cases h

/-- Characters of an element alone make one element. -/
theorem areElements_of_chars {cs : List Char} (h : ∀ c ∈ cs, isElementChar c = true) :
    areElements true cs = true := by
  induction cs with
  | nil => rfl
  | cons c rest ih =>
    rw [areElements_cons (h c List.mem_cons_self)]
    exact ih fun d hd => h d (List.mem_cons_of_mem _ hd)

theorem areElements_of_element {e : List Char} (hne : e ≠ [])
    (h : ∀ c ∈ e, isElementChar c = true) : areElements false e = true := by
  cases e with
  | nil => exact absurd rfl hne
  | cons c rest =>
    rw [areElements_cons (h c (by simp))]
    apply areElements_of_chars
    intro d hd
    exact h d (by simp [hd])

/-- One more element. -/
theorem areElements_append {entered : Bool} {cs ds : List Char}
    (h : areElements entered cs = true) (hd : areElements false ds = true) :
    areElements entered (cs ++ '/' :: ds) = true := by
  fun_induction areElements entered cs with
  | case1 entered =>
    subst h
    simpa [areElements] using hd
  | case2 entered =>
    subst h
    simpa [areElements] using hd
  | case3 entered rest ih =>
    simp only [Bool.and_eq_true] at h
    simp [areElements, h.1, ih h.2]
  | case4 entered rest ih =>
    simp only [Bool.and_eq_true] at h
    simp [areElements, h.1, ih h.2]
  | case5 entered c rest _ _ _ ih =>
    simp only [Bool.and_eq_true] at h
    rw [List.cons_append, areElements_cons h.1]
    exact ih h.2

/-- The characters of the last element of a device's path. -/
theorem isElementChar_of_deviceElement {address : String}
    (h : Address.isCanonical address.toList = true) {c : Char}
    (hc : c ∈ (deviceElement address).toList) : isElementChar c = true := by
  unfold deviceElement at hc
  rw [Address.upper_of_isCanonical h, String.toList_append, String.toList_ofList] at hc
  rcases List.mem_append.mp hc with hc | hc
  · have hstem : "dev_".toList.all isElementChar = true := by decide +kernel
    exact List.all_eq_true.mp hstem c hc
  · rw [String.toList_ofList] at hc
    obtain ⟨d, hd, rfl⟩ := List.mem_map.mp hc
    by_cases hcolon : d = ':'
    · rw [if_pos hcolon]
      decide
    · rcases Address.mem_of_isCanonical h hd with hu | hd
      · simpa [hcolon] using isElementChar_of_isUpperHex hu
      · exact absurd hd hcolon

theorem deviceElement_ne_nil (address : String) : (deviceElement address).toList ≠ [] := by
  unfold deviceElement
  simp

/-- The last element of a device's path is one. -/
theorem areElements_deviceElement {address : String}
    (h : Address.isCanonical address.toList = true) :
    areElements false (deviceElement address).toList = true :=
  areElements_of_element (deviceElement_ne_nil address) fun _ hc =>
    isElementChar_of_deviceElement h hc

theorem isValid_of_toList {path : String} {c : Char} {rest : List Char}
    (h : path.toList = '/' :: c :: rest) : isValid path = areElements false (c :: rest) := by
  unfold isValid
  rw [h]
  rfl

/-- On an adapter with a valid path a device with a canonical address has one. -/
theorem isValid_ofDevice {address adapter : String} (ha : isValid (ofAdapter adapter) = true)
    (h : Address.isCanonical address.toList = true) :
    isValid (ofDevice address adapter) = true := by
  have hl : (ofAdapter adapter).toList = '/' :: 'o' :: ("rg/bluez/" ++ adapter).toList := by
    unfold ofAdapter root
    simp only [String.toList_append]
    rfl
  have hd : (ofDevice address adapter).toList = '/' :: 'o' ::
      (("rg/bluez/" ++ adapter).toList ++ '/' :: (deviceElement address).toList) := by
    unfold ofDevice
    simp only [String.toList_append, hl]
    simp
  rw [isValid_of_toList hl] at ha
  rw [isValid_of_toList hd]
  exact areElements_append ha (areElements_deviceElement h)

/-! ## Paths tell devices apart -/

/-- The last element of a device's path with the address read back from it. -/
theorem deviceElement_eq {address : String} (h : Address.isCanonical address.toList = true) :
    ∃ spelled : List Char, (deviceElement address).toList = "dev_".toList ++ spelled ∧
      spelled.length = 17 ∧
      spelled.map (fun c => if c = '_' then ':' else c) = address.toList := by
  refine ⟨address.toList.map fun c => if c = ':' then '_' else c, ?_, ?_, ?_⟩
  · unfold deviceElement
    rw [Address.upper_of_isCanonical h, String.toList_append, String.toList_ofList]
    exact congrArg _ String.toList_ofList
  · rw [List.length_map, Address.length_of_isCanonical h]
  · rw [List.map_map]
    refine (List.map_congr_left fun c hc => ?_).trans (List.map_id _)
    rcases Address.mem_of_isCanonical h hc with hd | rfl
    · have hcolon : c ≠ ':' := by
        rintro rfl
        exact absurd hd (by decide)
      have hunder : c ≠ '_' := by
        rintro rfl
        exact absurd hd (by decide)
      simp only [Function.comp, if_neg hcolon, if_neg hunder, id]
    · rfl

/-- Devices with one path have one address, and their adapters one name. -/
theorem ofDevice_inj {a b m n : String} (ha : Address.isCanonical a.toList = true)
    (hb : Address.isCanonical b.toList = true) (h : ofDevice a m = ofDevice b n) :
    a = b ∧ m = n := by
  obtain ⟨as, hea, hla, hra⟩ := deviceElement_eq ha
  obtain ⟨bs, heb, hlb, hrb⟩ := deviceElement_eq hb
  have hsplit : (ofAdapter m ++ "/").toList ++ (deviceElement a).toList =
      (ofAdapter n ++ "/").toList ++ (deviceElement b).toList := by
    rw [← String.toList_append, ← String.toList_append]
    exact congrArg String.toList h
  obtain ⟨hadapter, helement⟩ := List.append_inj' hsplit (by
    rw [hea, heb, List.length_append, List.length_append, hla, hlb])
  rw [hea, heb] at helement
  refine ⟨String.toList_inj.mp ?_, String.toList_inj.mp ?_⟩
  · rw [← hra, ← hrb, List.append_cancel_left helement]
  · unfold ofAdapter at hadapter
    simp only [String.toList_append] at hadapter
    exact List.append_cancel_left (List.append_cancel_right hadapter)

end ObjectPath

end BluetoothControl
