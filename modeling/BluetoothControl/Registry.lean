import BluetoothControl.Host.Adapters

/-!
# The registry

A registry keeps one controller for each adapter name.  A controller is built on the first lookup of
its name, and again when the one kept was closed meanwhile.  How controllers are built and closed is
left to a workshop, which knows them by numbers.
-/

namespace BluetoothControl

/-- Builds and closes controllers, over a state of type `σ`. -/
structure Workshop (σ : Type) where
  /-- A controller is built for an adapter. -/
  build : String → Option Config → Procedure Failure σ Nat
  /-- Whether a controller was closed. -/
  isClosed : σ → Nat → Bool
  /-- A controller is closed. -/
  close : Nat → Procedure Failure σ Unit

/-- A registry, with the state of the workshop behind it. -/
structure Registry (σ : Type) where
  config : Option Config := none
  /-- The controllers kept, by name, in the order in which the names came. -/
  entries : List (String × Nat) := []
  state : σ

namespace Registry

variable {σ α : Type}

/-- Something done in the workshop. -/
def inWorkshop (p : Procedure Failure σ α) : Procedure Failure (Registry σ) α := fun r =>
  let (a, s) := p r.state
  (a, { r with state := s })

/-- A controller kept under a name; a name that is known keeps its place. -/
def keep (name : String) (number : Nat) (r : Registry σ) : Registry σ :=
  if r.entries.any (·.1 == name) then
    { r with entries := r.entries.map fun e => if e.1 == name then (name, number) else e }
  else { r with entries := r.entries ++ [(name, number)] }

/-- The controller kept under a name, unless it was closed. -/
def kept? (w : Workshop σ) (name : String) (r : Registry σ) : Option Nat :=
  (r.entries.lookup name).filter fun number => !w.isClosed r.state number

/-- The controller of a name; it is built if none is kept or the one kept was closed. -/
def lookup (w : Workshop σ) (name : String) : Procedure Failure (Registry σ) Nat := do
  let r ← get
  match r.kept? w name with
  | some number => return number
  | none =>
    let number ← inWorkshop (w.build name r.config)
    modify (keep name number)
    return number

/-- The names that have a controller, in order. -/
def names (r : Registry σ) : List String :=
  (r.entries.map (·.1)).mergeSort fun a b => !(b < a)

/-- The controllers of the adapters that a host has. -/
def discover (w : Workshop σ) (h : Host) : Procedure Failure (Registry σ) (List Nat) := do
  let adapters ← Procedure.ofExcept (Adapters.discover h)
  Procedure.forAll (lookup w) adapters

/-- Every controller is forgotten, then closed in turn; one that fails to close ends it. -/
def close (w : Workshop σ) : Procedure Failure (Registry σ) Unit := do
  let numbers := (← get).entries.map (·.2)
  modify fun r => { r with entries := [] }
  Procedure.forEach (fun number => inWorkshop (w.close number)) numbers

/-! ## Lemmas -/

theorem names_keep (name : String) (number : Nat) (r : Registry σ) :
    (keep name number r).entries.map (·.1) =
      if r.entries.any (·.1 == name) then r.entries.map (·.1)
      else r.entries.map (·.1) ++ [name] := by
  unfold keep
  split
  · simp only [List.map_map]
    apply List.map_congr_left
    intro e _
    by_cases h : e.1 == name <;> simp_all
  · simp

theorem lookup_kept (w : Workshop σ) {name : String} {number : Nat} {r : Registry σ}
    (h : r.kept? w name = some number) : lookup w name r = (.ok number, r) := by
  show (match r.kept? w name with
    | some number => (pure number : Procedure Failure (Registry σ) Nat)
    | none => _) r = _
  rw [h]
  rfl

theorem lookup_unkept (w : Workshop σ) {name : String} {r : Registry σ}
    (h : r.kept? w name = none) :
    lookup w name r = (inWorkshop (w.build name r.config) >>= fun number => do
      modify (keep name number)
      return number) r := by
  show (match r.kept? w name with
    | some number => (pure number : Procedure Failure (Registry σ) Nat)
    | none => _) r = _
  rw [h]

end Registry

end BluetoothControl
