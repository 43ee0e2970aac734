import BluetoothControl.Proofs.Spelling
import BluetoothControl.Text.Separated

/-!
# Which adapter owns a path

The path of a device tells its adapter and its address apart: after the root comes the adapter's
name up to the next slash, and after that the address with its colons replaced.  A name without a
slash can be read back from every path below it (`owner_of_isChild`), so that a path has one owner,
however names start or continue each other (`ofDevice_identifies`).
-/

namespace BluetoothControl.ObjectPath

open BluetoothControl.Text

/-! ## The grammar -/

/-- The form of an object path below the root: one element or more, each after a slash and each of
one character or more. -/
def IsWellFormed (path : String) : Prop :=
  ∃ elements : List (List Char), elements ≠ [] ∧
    (∀ e ∈ elements, e ≠ [] ∧ ∀ c ∈ e, isElementChar c = true) ∧
    path.toList = elements.flatMap ('/' :: ·)

/-- The name between the root of a path and the next slash. -/
def owner (path : List Char) : List Char :=
  (path.drop (root.length + 1)).takeWhile (· ≠ '/')

/-! ## Valid paths -/

/-- Elements after one another, the slash before the first one taken off. -/
theorem areElements_flatMap {e : List Char} {es : List (List Char)}
    (h : ∀ d ∈ e :: es, d ≠ [] ∧ ∀ c ∈ d, isElementChar c = true) :
    areElements false (e ++ es.flatMap ('/' :: ·)) = true := by
  induction es generalizing e with
  | nil =>
    obtain ⟨hne, hchars⟩ := h e (by simp)
    simpa using areElements_of_element hne hchars
  | cons f fs ih =>
    obtain ⟨hne, hchars⟩ := h e (by simp)
    have hrest : areElements false (f ++ fs.flatMap ('/' :: ·)) = true := by
      apply ih
      intro d hd
      exact h d (List.mem_cons_of_mem e hd)
    rw [List.flatMap_cons, List.cons_append]
    exact areElements_append (areElements_of_element hne hchars) hrest

/-- A well-formed path passes the check. -/
theorem isValid_of_isWellFormed {path : String} (h : IsWellFormed path) : isValid path = true := by
  obtain ⟨elements, hne, helements, hpath⟩ := h
  cases elements with
  | nil => exact absurd rfl hne
  | cons e es =>
    have hbody := areElements_flatMap helements
    rw [List.flatMap_cons, List.cons_append] at hpath
    cases hcs : e ++ es.flatMap ('/' :: ·) with
    | nil => exact absurd (List.append_eq_nil_iff.mp hcs).1 (helements e (by simp)).1
    | cons c rest =>
      rw [hcs] at hpath hbody
      rw [isValid_of_toList hpath, hbody]

/-- The elements of a device's path: the two of the root, the adapter, the device. -/
theorem toList_ofDevice (address adapter : String) :
    (ofDevice address adapter).toList =
      ["org".toList, "bluez".toList, adapter.toList, (deviceElement address).toList].flatMap
        ('/' :: ·) := by
  unfold ofDevice ofAdapter root
  simp

theorem isWellFormed_ofDevice {address adapter : String}
    (ha : Address.isCanonical address.toList = true) (hne : adapter ≠ "")
    (h : ∀ c ∈ adapter.toList, isElementChar c = true) :
    IsWellFormed (ofDevice address adapter) := by
  refine ⟨_, by simp, ?_, toList_ofDevice address adapter⟩
  have hroot : ["org".toList, "bluez".toList].all
      (fun e => !e.isEmpty && e.all isElementChar) = true := by decide +kernel
  have hmade : ∀ e ∈ ["org".toList, "bluez".toList],
      e ≠ [] ∧ ∀ c ∈ e, isElementChar c = true := by
    intro e he
    simpa using List.all_eq_true.mp hroot e he
  intro e he
  simp only [List.mem_cons, List.not_mem_nil, or_false] at he
  rcases he with rfl | rfl | rfl | rfl
  · exact hmade _ (by simp)
  · exact hmade _ (by simp)
  · refine ⟨?_, h⟩
    simpa using hne
  · exact ⟨deviceElement_ne_nil address, fun c hc => isElementChar_of_deviceElement ha hc⟩

/-! ## Owners -/

/-- An adapter with no slash in its name is read back from a path that it owns. -/
theorem owner_of_isChild {path adapter : String} (hslash : '/' ∉ adapter.toList)
    (h : isChild path adapter = true) : owner path.toList = adapter.toList := by
  obtain ⟨rest, hpath⟩ := (isChild_iff path adapter).mp h
  have hsplit : path.toList = (root.toList ++ ['/']) ++ (adapter.toList ++ '/' :: rest) := by
    rw [← hpath]
    unfold ofAdapter
    simp
  unfold owner
  rw [hsplit, List.drop_left' (by decide), takeWhile_separated hslash]

/-- A path has at most one owner. -/
theorem owner_unique {path m n : String} (hm : '/' ∉ m.toList) (hn : '/' ∉ n.toList)
    (hpm : isChild path m = true) (hpn : isChild path n = true) : m = n := by
  apply String.toList_inj.mp
  rw [← owner_of_isChild hm hpm, owner_of_isChild hn hpn]

theorem isChild_ofDevice (address adapter : String) :
    isChild (ofDevice address adapter) adapter = true := by
  rw [isChild_iff]
  unfold ofDevice
  simp

/-- The spelling of an address makes no difference to the path, as long as no blanks are around it:
both routes to the upper case come to the same. -/
theorem ofDevice_normalize {x y : String} (hblank : trim x.toList = x.toList)
    (h : Address.normalize x = .ok y) (adapter : String) :
    ofDevice x adapter = ofDevice y adapter := by
  have hy : upper y.toList = upper x.toList := by
    have hcanon := Address.isCanonical_of_normalize h
    rw [Address.normalize_eq, hblank] at h
    split at h
    · cases h
      rw [Address.upper_of_isCanonical hcanon, String.toList_ofList]
    · cases h
  unfold ofDevice deviceElement
  rw [hy]

/-- A path says which device it is and on which adapter: canonical addresses on adapters of any
names have one path only if both are the same.  Among adapters with no slash in their names the path
of a device is owned by its own alone, and no path at all by two.  On an adapter named by one
character of an element or more, the path is well-formed and passes the check; and it is the same
for every accepted spelling of the address that has no blanks around it. -/
theorem ofDevice_identifies :
    (∀ a b m n : String, Address.isCanonical a.toList = true →
      Address.isCanonical b.toList = true → ofDevice a m = ofDevice b n → a = b ∧ m = n) ∧
    (∀ a m n : String, '/' ∉ m.toList → '/' ∉ n.toList →
      (isChild (ofDevice a m) n = true ↔ m = n)) ∧
    (∀ path m n : String, '/' ∉ m.toList → '/' ∉ n.toList → isChild path m = true →
      isChild path n = true → m = n) ∧
    (∀ a n : String, Address.isCanonical a.toList = true → n ≠ "" →
      (∀ c ∈ n.toList, isElementChar c = true) →
      IsWellFormed (ofDevice a n) ∧ isValid (ofDevice a n) = true) ∧
    (∀ x y n : String, trim x.toList = x.toList → Address.normalize x = .ok y →
      ofDevice x n = ofDevice y n) := by
  refine ⟨?_, ?_, ?_, ?_, ?_⟩
  · intro a b m n ha hb h
    exact ofDevice_inj ha hb h
  · intro a m n hm hn
    constructor
    · intro h
      exact owner_unique hm hn (isChild_ofDevice a m) h
    · rintro rfl
      exact isChild_ofDevice a m
  · intro path m n hm hn hpm hpn
    exact owner_unique hm hn hpm hpn
  · intro a n ha hne hn
    have hwell := isWellFormed_ofDevice ha hne hn
    exact ⟨hwell, isValid_of_isWellFormed hwell⟩
  · intro x y n hblank h
    exact ofDevice_normalize hblank h n

/-- A name that continues another, and one that continues it by what starts a device's element. -/
theorem ofDevice_identifies_neighbours :
    (isChild (ofDevice "AA:BB:CC:DD:EE:0F" "hci1") "hci1" = true ∧
      ¬ isChild (ofDevice "AA:BB:CC:DD:EE:0F" "hci1") "hci10" = true ∧
      ¬ isChild (ofDevice "AA:BB:CC:DD:EE:0F" "hci1_dev_AA") "hci1" = true) ∧
    ofDevice "AA:BB:CC:DD:EE:0F" "hci1" ≠ ofDevice "AA:BB:CC:DD:EE:0E" "hci1" ∧
    ¬ isChild "/org/bluez/hci1/dev_AA" "hci" = true ∧
    isValid (ofDevice "AA:BB:CC:DD:EE:0F" "hci1_dev_AA") = true ∧
    ofDevice "aa:bb:CC:dd:ee:0f" "hci1" = ofDevice "AA:BB:CC:DD:EE:0F" "hci1" := by
  obtain ⟨hinj, hchild, hunique, hvalid, hspell⟩ := ofDevice_identifies
  refine ⟨⟨?_, ?_, ?_⟩, ?_, ?_, ?_, ?_⟩
  · exact (hchild _ "hci1" "hci1" (by decide +kernel) (by decide +kernel)).mpr rfl
  · exact mt (hchild _ "hci1" "hci10" (by decide +kernel) (by decide +kernel)).mp (by decide)
  · exact mt (hchild _ "hci1_dev_AA" "hci1" (by decide +kernel) (by decide +kernel)).mp
      (by decide)
  · intro h
    exact absurd (hinj _ _ _ _ (by decide +kernel) (by decide +kernel) h).1 (by decide)
  · intro h
    have howned : isChild "/org/bluez/hci1/dev_AA" "hci1" = true := by decide +kernel
    exact absurd (hunique _ _ _ (by decide +kernel) (by decide +kernel) h howned) (by decide)
  · have hname : "hci1_dev_AA".toList.all isElementChar = true := by decide +kernel
    exact (hvalid _ "hci1_dev_AA" (by decide +kernel) (by decide) (List.all_eq_true.mp hname)).2
  · apply hspell
    · decide +kernel
    · rw [Address.normalize_eq, if_pos (by decide +kernel)]
      exact congrArg Except.ok (by decide +kernel)

end BluetoothControl.ObjectPath
