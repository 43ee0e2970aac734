import BluetoothControl.Address
import BluetoothControl.Roster.Update
import BluetoothControl.Text.Lines

/-!
# Scan reports

The inquiry tool prints one device a line, its address and its name with a tab between them.  Lines
that do not start with an address are skipped; a device that comes again keeps its place and takes
its last name, and one without a name is entered under a fixed one.
-/

namespace BluetoothControl.ScanReport

open BluetoothControl.Text

/-- Entered for a device that the report gives no name. -/
def missingName : String := "n/a"

/-- What follows the first tab. -/
def afterTab (cs : List Char) : List Char := (cs.dropWhile (· ≠ '\t')).drop 1

/-- The device on a line, if there is one. -/
def device? (line : List Char) : Option (String × String) :=
  let shown := trim line
  (Address.canonical? (shown.takeWhile (· ≠ '\t'))).map fun address =>
    let name := trim (afterTab shown)
    (String.ofList address, if name.isEmpty then missingName else String.ofList name)

/-- A line entered into the devices found so far. -/
def enter (found : Roster String) (line : List Char) : Roster String :=
  match device? line with
  | some (address, name) => found.put address name
  | none => found

/-- The devices in a report. -/
def parse (report : String) : Roster String := (lines report.toList).foldl enter []

/-! ## Lemmas -/

/-- The devices of the lines are put one after another. -/
theorem parse_eq (report : String) :
    parse report = Roster.putAll [] ((lines report.toList).filterMap device?) := by
  unfold parse Roster.putAll
  rw [List.foldl_filterMap]
  congr 1
  funext found line
  unfold enter
  cases device? line <;> rfl

/-- What is found stands on some line. -/
theorem mem_parse {report : String} {d : String × String} (h : d ∈ parse report) :
    ∃ line ∈ lines report.toList, device? line = some d := by
  rw [parse_eq] at h
  rcases Roster.mem_putAll h with h | h
  · exact absurd h List.not_mem_nil
  · exact List.mem_filterMap.mp h

theorem nodup_parse (report : String) : (parse report).addresses.Nodup := by
  rw [parse_eq]
  have hnone : (Roster.addresses ([] : Roster String)).Nodup := List.nodup_nil
  exact Roster.nodup_putAll hnone _

end BluetoothControl.ScanReport
