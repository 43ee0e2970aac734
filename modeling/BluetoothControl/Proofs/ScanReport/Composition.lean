import BluetoothControl.Host.ScanReport

/-!
# Scan reports read piece by piece

Two reports with a line feed between them are read as the one brought up to date by the other
(`parse_concat`): a line never reaches over the line feed, whatever the texts end and begin with, so
each device comes from one of the two.  Reading passes over what is no address and fails at nothing.
-/

namespace BluetoothControl.ScanReport

open BluetoothControl.Text

/-! ## Reading with its failures -/

/-- What stands in the place of a line's address. -/
def addressText (line : List Char) : String :=
  String.ofList ((trim line).takeWhile (· ≠ '\t'))

/-- The name on a line, or the one that is entered for none. -/
def nameOn (line : List Char) : String :=
  let name := trim (afterTab (trim line))
  if name.isEmpty then missingName else String.ofList name

/-- A line entered if its address can be read: the failure of a text that has no meaning is taken,
and any other ends the reading. -/
def tryEnter (found : Roster String) (line : List Char) : Except Failure (Roster String) :=
  match Address.normalize (addressText line) with
  | .ok address => .ok (found.put address (nameOn line))
  | .error f => if f.isA .badValue then .ok found else .error f

/-- The devices in a report, or the failure that ends its reading. -/
def tryParse (report : String) : Except Failure (Roster String) :=
  (lines report.toList).foldlM tryEnter []

theorem tryEnter_eq (found : Roster String) (line : List Char) :
    tryEnter found line = .ok (enter found line) := by
  unfold tryEnter enter device? Address.normalize addressText
  dsimp only
  rw [String.toList_ofList]
  cases Address.canonical? ((trim line).takeWhile (· ≠ '\t')) with
  | none => rfl
  | some address => rfl

/-- Reading a report never fails. -/
theorem tryParse_eq (report : String) : tryParse report = .ok (parse report) := by
  have hfold : ∀ (ls : List (List Char)) (found : Roster String),
      ls.foldlM tryEnter found = .ok (ls.foldl enter found) := by
    intro ls
    induction ls with
    | nil => exact fun _ => rfl
    | cons line rest ih =>
      intro found
      rw [List.foldlM_cons, tryEnter_eq]
      exact ih (enter found line)
  exact hfold _ []

/-! ## Names -/

/-- A device is entered under a name that has no blanks around it. -/
theorem shown_of_device? {line : List Char} {d : String × String} (h : device? line = some d) :
    d.2 ≠ "" ∧
      ∀ c, d.2.toList.head? = some c ∨ d.2.toList.getLast? = some c → isBlank c = false := by
  obtain ⟨address, -, rfl⟩ := Option.map_eq_some_iff.mp h
  dsimp only
  split
  · have hmissing : missingName ≠ "" := by decide +kernel
    have hblank : ∀ c ∈ missingName.toList, isBlank c = false := by
      have hall : missingName.toList.all (!isBlank ·) = true := by decide +kernel
      simpa using hall
    refine ⟨hmissing, fun c hc => hblank c ?_⟩
    rcases hc with hc | hc
    · exact List.mem_of_head? hc
    · exact List.mem_of_getLast? hc
  · next hname =>
    refine ⟨by simpa using hname, fun c hc => ?_⟩
    rw [String.toList_ofList] at hc
    rcases hc with hc | hc
    · exact isBlank_of_head?_trim hc
    · exact isBlank_of_getLast?_trim hc

/-! ## Two reports -/

theorem device?_nil : device? [] = none := by decide +kernel

/-- A line feed between two texts makes no device and cuts none. -/
theorem filterMap_device?_append (cs ds : List Char) :
    (lines (cs ++ '\n' :: ds)).filterMap device? =
      (lines cs).filterMap device? ++ (lines ds).filterMap device? := by
  obtain ⟨gap, hgap, hlines⟩ := lines_append_lf cs ds
  have hnone : gap.filterMap device? = [] := by
    apply List.filterMap_eq_nil_iff.mpr
    intro line hline
    rw [hgap line hline, device?_nil]
  rw [hlines, List.filterMap_append, List.filterMap_append, hnone, List.nil_append]

/-- Of two reports with a line feed between them the first one's devices come first, each in its
place there but under the second one's name for it, if that has one; then follow the others of the
second, in its order.  So it is as if the second one's devices were entered one after another.  What
is found in a report has different addresses and names that are not empty and have no blanks around
them, and reading a report never fails. -/
theorem parse_concat (a b : String) :
    parse (a ++ "\n" ++ b) = (parse a).update (parse b) ∧
    (parse a).update (parse b) = (parse a).putAll (parse b) ∧
    (parse a).addresses.Nodup ∧
    (∀ d ∈ parse a, d.2 ≠ "" ∧
      ∀ c, d.2.toList.head? = some c ∨ d.2.toList.getLast? = some c → isBlank c = false) ∧
    tryParse a = .ok (parse a) := by
  refine ⟨?_, Roster.update_eq_putAll (nodup_parse b) _, nodup_parse a, ?_, tryParse_eq a⟩
  · have htext : (a ++ "\n" ++ b).toList = a.toList ++ '\n' :: b.toList := by simp
    calc parse (a ++ "\n" ++ b)
        = Roster.putAll [] ((lines a.toList).filterMap device? ++
            (lines b.toList).filterMap device?) := by
          rw [parse_eq, htext, filterMap_device?_append]
      _ = (parse a).putAll ((lines b.toList).filterMap device?) := by
          rw [Roster.putAll_append, parse_eq]
      _ = (parse a).update (parse b) := by
          rw [Roster.putAll_eq, ← parse_eq]
  · intro d hd
    obtain ⟨line, -, hline⟩ := mem_parse hd
    exact shown_of_device? hline

/-- A device that comes again, after a carriage return and the line feed. -/
example : parse ("AA:BB:CC:DD:EE:01\tx\nAA:BB:CC:DD:EE:02\ty\r" ++ "\n" ++
    "aa:bb:cc:dd:ee:03\t\naa:bb:cc:dd:ee:01\tz") =
    [("AA:BB:CC:DD:EE:01", "z"), ("AA:BB:CC:DD:EE:02", "y"), ("AA:BB:CC:DD:EE:03", "n/a")] := by
  decide +kernel

end BluetoothControl.ScanReport
