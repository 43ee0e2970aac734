import BluetoothControl.Host.ScanReport
import BluetoothControl.Proofs.Spelling
import BluetoothControl.Text.Separated

/-!
# Scan reports read back

The inquiry tool prints a heading and one line for each device, and ends lines by line feeds alone.
Reading a report knows more line breaks than that.  So what was printed is read back exactly if no
name has one of those in it (`parse_render_iff`); else a name is cut there, and what follows is read
as a line of its own.
-/

namespace BluetoothControl.ScanReport

open BluetoothControl.Text

/-! ## Reports as they are printed -/

/-- The first line of a report. -/
def heading : List Char := "Scanning ...".toList

/-- The line of a device. -/
def lineOf (device : String × String) : List Char :=
  '\t' :: (device.1.toList ++ '\t' :: device.2.toList)

/-- The report of devices: each line is ended by a line feed. -/
def render (devices : Roster String) : String :=
  String.ofList ((heading :: devices.map lineOf).flatMap (· ++ ['\n']))

/-- What the tool can print: different devices under canonical addresses, each by a name with no
blanks around it, and no line feed or carriage return in it. -/
structure Reportable (devices : Roster String) : Prop where
  canonical : ∀ d ∈ devices, Address.isCanonical d.1.toList = true
  distinct : devices.addresses.Nodup
  named : ∀ d ∈ devices, d.2 ≠ ""
  trimmed : ∀ d ∈ devices, trim d.2.toList = d.2.toList
  unbroken : ∀ d ∈ devices, '\n' ∉ d.2.toList ∧ '\r' ∉ d.2.toList

/-- The line breaks that the tool does not know: vertical tab, form feed, the file, group and record
separators, next line, and the line and paragraph separators. -/
def foreignBreaks : List Nat := [0xB, 0xC, 0x1C, 0x1D, 0x1E, 0x85, 0x2028, 0x2029]

theorem isLineBreak_iff (c : Char) :
    isLineBreak c = true ↔ c = '\n' ∨ c = '\r' ∨ c.toNat ∈ foreignBreaks := by
  have hlf : c = '\n' ↔ c.toNat = 0xA := by
    rw [← Char.toNat_inj]
    rfl
  have hcr : c = '\r' ↔ c.toNat = 0xD := by
    rw [← Char.toNat_inj]
    rfl
  simp only [isLineBreak, foreignBreaks, hlf, hcr, Bool.or_eq_true, Bool.and_eq_true,
    decide_eq_true_eq, beq_iff_eq, List.mem_cons, List.not_mem_nil, or_false]
  omega

/-! ## One line -/

/-- Of a line only the tab at its front is taken off. -/
theorem trim_lineOf {address name : String} (ha : Address.isCanonical address.toList = true)
    (hne : name ≠ "") (ht : trim name.toList = name.toList) :
    trim (lineOf (address, name)) = address.toList ++ '\t' :: name.toList := by
  have htab : trim (lineOf (address, name)) = trim (address.toList ++ '\t' :: name.toList) := by
    have hbefore : ∀ c ∈ ['\t'], isBlank c = true := by simp [isBlank]
    have hafter : ∀ c ∈ ([] : List Char), isBlank c = true := by simp
    have hblanks := trim_surrounded hbefore hafter (address.toList ++ '\t' :: name.toList)
    simpa [lineOf] using hblanks
  have hchars : name.toList ≠ [] := by simpa using hne
  rw [htab]
  apply trim_of_ends
  · intro c hc
    cases haddress : address.toList with
    | nil =>
      rw [haddress] at ha
      exact absurd ha (by decide)
    | cons d rest =>
      rw [haddress] at hc ha
      have hd : d = c := by simpa using hc
      exact Address.isBlank_of_isCanonical ha c (by simp [hd])
  · intro c hc
    have hlast : name.toList.getLast? = some c := by
      rw [List.getLast?_append, List.getLast?_cons_of_ne_nil hchars,
        List.getLast?_eq_some_getLast hchars, Option.some_or] at hc
      rw [List.getLast?_eq_some_getLast hchars, hc]
    apply isBlank_of_getLast?_trim
    rw [ht, hlast]

/-- A line gives the device that it was printed for, whatever line breaks are in its name. -/
theorem device?_lineOf {address name : String} (ha : Address.isCanonical address.toList = true)
    (hne : name ≠ "") (ht : trim name.toList = name.toList) :
    device? (lineOf (address, name)) = some (address, name) := by
  have htab : '\t' ∉ address.toList := by
    intro h
    exact absurd (Address.isBlank_of_isCanonical ha _ h) (by decide)
  have hafter : afterTab (address.toList ++ '\t' :: name.toList) = name.toList := by
    unfold afterTab
    rw [dropWhile_separated htab]
    rfl
  unfold device?
  simp only [trim_lineOf ha hne ht, takeWhile_separated htab, hafter, ht,
    Address.canonical?_of_isCanonical ha, Option.map_some, String.ofList_toList]
  simp [hne]

/-- A line has the line breaks of the device's name, and no others. -/
theorem isLineBreak_of_mem_lineOf {d : String × String}
    (ha : Address.isCanonical d.1.toList = true)
    (hname : ∀ c ∈ d.2.toList, isLineBreak c = false) : ∀ c ∈ lineOf d, isLineBreak c = false := by
  intro c hc
  simp only [lineOf, List.mem_cons, List.mem_append] at hc
  rcases hc with rfl | hc | rfl | hc
  · decide
  · rcases Address.mem_of_isCanonical ha hc with hu | rfl
    · have hrange := Address.toNat_of_isUpperHex hu
      simp only [isLineBreak, Bool.or_eq_false_iff, Bool.and_eq_false_iff,
        decide_eq_false_iff_not, beq_eq_false_iff_ne]
      omega
    · decide
  · decide
  · exact hname c hc

/-! ## Whole reports -/

/-- Items that are read back one by one are read back together. -/
theorem filterMap_map_eq {α β : Type} {f : α → β} {g : β → Option α} {as : List α}
    (h : ∀ a ∈ as, g (f a) = some a) : (as.map f).filterMap g = as := by
  induction as with
  | nil => rfl
  | cons a rest ih =>
    obtain ⟨ha, hrest⟩ := List.forall_mem_cons.mp h
    rw [List.map_cons, List.filterMap_cons_some ha, ih hrest]

theorem filterMap_lineOf {devices : Roster String} (h : Reportable devices) :
    (devices.map lineOf).filterMap device? = devices :=
  filterMap_map_eq fun d hd => device?_lineOf (h.canonical d hd) (h.named d hd) (h.trimmed d hd)

theorem parse_render {devices : Roster String} (h : Reportable devices)
    (hbreak : ∀ d ∈ devices, ∀ c ∈ d.2.toList, isLineBreak c = false) :
    parse (render devices) = devices := by
  have hlines : ∀ line ∈ heading :: devices.map lineOf, ∀ c ∈ line, isLineBreak c = false := by
    intro line hline
    rcases List.mem_cons.mp hline with rfl | hline
    · have hheading : heading.all (!isLineBreak ·) = true := by decide +kernel
      simpa using hheading
    · obtain ⟨d, hd, rfl⟩ := List.mem_map.mp hline
      exact isLineBreak_of_mem_lineOf (h.canonical d hd) (hbreak d hd)
  have hheading : device? heading = none := by decide +kernel
  unfold render
  rw [parse_eq, String.toList_ofList, lines_flatMap hlines, List.filterMap_cons_none hheading,
    filterMap_lineOf h]
  exact Roster.putAll_of_unknown h.distinct fun _ _ => List.not_mem_nil

/-! ## Names are cut at line breaks -/

theorem isLineBreak_of_device? {line : List Char} (h : ∀ c ∈ line, isLineBreak c = false)
    {e : String × String} (he : device? line = some e) :
    ∀ c ∈ e.2.toList, isLineBreak c = false := by
  obtain ⟨address, -, rfl⟩ := Option.map_eq_some_iff.mp he
  dsimp only
  split
  · have hmissing : missingName.toList.all (!isLineBreak ·) = true := by decide +kernel
    simpa using hmissing
  · intro c hc
    rw [String.toList_ofList] at hc
    have hafter := List.mem_of_mem_drop (mem_of_mem_trim hc)
    have hshown := (List.dropWhile_suffix (· ≠ '\t')).subset hafter
    exact h c (mem_of_mem_trim hshown)

/-- What is read from a report is named by texts with no line break in them. -/
theorem isLineBreak_of_parse (report : String) :
    ∀ d ∈ parse report, ∀ c ∈ d.2.toList, isLineBreak c = false := by
  intro d hd
  obtain ⟨line, hline, hdevice⟩ := mem_parse hd
  exact isLineBreak_of_device? (isLineBreak_of_mem_lines hline) hdevice

/-- A report of devices that can be reported is read back, device by device and name by name,
exactly if no name has a line break that the tool does not know. -/
theorem parse_render_iff {devices : Roster String} (h : Reportable devices) :
    parse (render devices) = devices ↔
      ∀ d ∈ devices, ∀ c ∈ d.2.toList, c.toNat ∉ foreignBreaks := by
  constructor
  · intro hparse d hd c hc hforeign
    rw [← hparse] at hd
    have hnone := isLineBreak_of_parse (render devices) d hd c hc
    rw [(isLineBreak_iff c).mpr (Or.inr (Or.inr hforeign))] at hnone
    cases hnone
  · intro hforeign
    apply parse_render h
    intro d hd c hc
    rw [Bool.eq_false_iff, ne_eq, isLineBreak_iff]
    rintro (rfl | rfl | hc')
    · exact (h.unbroken d hd).1 hc
    · exact (h.unbroken d hd).2 hc
    · exact hforeign d hd c hc hc'

/-- A name that reads like a line of a report, tabs and all, is a name. -/
theorem parse_render_iff_tabs :
    let devices : Roster String := [("AA:BB:CC:DD:EE:01", "x\tAA:BB:CC:DD:EE:02\ty"),
      ("AA:BB:CC:DD:EE:03", "caf\u00e9 \u00a0 12:34:56:78:9A:BC")]
    Reportable devices ∧ parse (render devices) = devices := by
  intro devices
  have h : Reportable devices :=
    { canonical := by decide +kernel
      distinct := by decide +kernel
      named := by decide +kernel
      trimmed := by decide +kernel
      unbroken := by decide +kernel }
  have hknown : devices.all (fun d => d.2.toList.all fun c => !foreignBreaks.contains c.toNat) =
      true := by decide +kernel
  exact ⟨h, (parse_render_iff h).mpr (by simpa using hknown)⟩

/-- With a line separator in it, a name is cut there, and its rest makes up a device. -/
theorem not_parse_render_of_separator :
    let devices : Roster String := [("AA:BB:CC:DD:EE:01", "x\u2028AA:BB:CC:DD:EE:02\ty")]
    Reportable devices ∧
      parse (render devices) = [("AA:BB:CC:DD:EE:01", "x"), ("AA:BB:CC:DD:EE:02", "y")] ∧
      parse (render devices) ≠ devices := by
  intro devices
  have h : Reportable devices :=
    { canonical := by decide +kernel
      distinct := by decide +kernel
      named := by decide +kernel
      trimmed := by decide +kernel
      unbroken := by decide +kernel }
  have hread : parse (render devices) =
      [("AA:BB:CC:DD:EE:01", "x"), ("AA:BB:CC:DD:EE:02", "y")] := by decide +kernel
  refine ⟨h, hread, ?_⟩
  rw [hread]
  decide +kernel

end BluetoothControl.ScanReport
