import BluetoothControl.Decimal.Numeral
import BluetoothControl.Host

/-!
# The adapters of a host

Adapters are called `hci` and a number.  The sources of names are tried in order, and the first that
does not fail and has an adapter decides; a host without one is taken to have the default adapter.
-/

namespace BluetoothControl.Adapters

open BluetoothControl.Decimal BluetoothControl.Text

/-! ## Names -/

/-- What follows the fixed start of an adapter's name, if it has that start. -/
def afterStem : List Char → List Char
  | 'h' :: 'c' :: 'i' :: rest => rest
  | cs => cs

/-- The number in an adapter's name; the fixed start may be left out. -/
def number (adapter : String) : Except Failure Int :=
  match readInt? (afterStem adapter.toList) with
  | some n => .ok n
  | none => .error (.notAdapterName adapter)

/-- The form of an adapter's name: the fixed start, decimal digits, and at most a line feed. -/
def isName : List Char → Bool
  | 'h' :: 'c' :: 'i' :: rest =>
    !(rest.takeWhile isDigit).isEmpty &&
      (rest.dropWhile isDigit == [] || rest.dropWhile isDigit == ['\n'])
  | _ => false

/-! ## Enumeration -/

/-- What an adapter's name is sorted by: the number after the fixed start. -/
def sortKey? (name : String) : Option Int := readInt? (name.toList.drop 3)

/-- Adapter names without repetition, in the order of their numbers; none if a number cannot be
read. -/
def sorted? (names : List String) : Option (List String) :=
  let chosen := (names.filter fun n => isName n.toList).eraseDups
  (chosen.mapM fun n => (sortKey? n).map fun k => (k, n)).map fun numbered =>
    (numbered.mergeSort fun a b => a.1 ≤ b.1).map (·.2)

/-- The adapters of a source; one entry without a usable name spoils it, and what it listed before
it failed does not count. -/
def ofSource : Source → Except Failure (Option (List String))
  | .fails _ f => if f.kind.isOrdinary then .ok none else .error f
  | .lists entries => .ok ((entries.mapM id).bind sorted?)

/-- The adapters of the first source that has any. -/
def ofSources : List Source → Except Failure (List String)
  | [] => .ok [defaultAdapter]
  | source :: rest => do
    match ← ofSource source with
    | some (name :: names) => return name :: names
    | _ => ofSources rest

/-- The adapters of a host. -/
def discover (h : Host) : Except Failure (List String) :=
  if h.isLinux then ofSources [h.kernelAdapters, h.treeAdapters] else .ok [defaultAdapter]

/-! ## Lemmas -/

/-- A name without a number is refused for that. -/
theorem eq_of_number_error {name : String} {f : Failure} (h : number name = .error f) :
    f = .notAdapterName name := by
  unfold number at h
  split at h
  · cases h
  · cases h
    rfl

end BluetoothControl.Adapters
