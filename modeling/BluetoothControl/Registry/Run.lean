import BluetoothControl.Registry

/-!
# The life of a registry

A registry lives through moves: what callers ask of it, and controllers that are closed without it.
Besides the registry it is kept what its lookups answered, those that `discover` makes among them.
-/

namespace BluetoothControl

variable {σ α : Type}

/-- What a registry takes for granted in a workshop whose state is `fit`.  `made` lists the adapters
that controllers were built for, by number: a controller that is built gets the next number and is
open, one that cannot be built leaves no trace, and to close a controller always answers and closes
that one only. -/
structure Workshop.Reliable (w : Workshop σ) (fit : σ → Prop) (made : σ → List String) : Prop where
  builds : ∀ {name config s n t}, fit s → w.build name config s = (.ok n, t) →
    fit t ∧ n = (made s).length ∧ made t = made s ++ [name] ∧ w.isClosed t n = false ∧
      ∀ m < (made s).length, w.isClosed t m = w.isClosed s m
  refuses : ∀ {name config s f t}, fit s → w.build name config s = (.error f, t) →
    fit t ∧ made t = made s ∧ ∀ m < (made s).length, w.isClosed t m = w.isClosed s m
  closes : ∀ {s} n, fit s → ∃ t, w.close n s = (.ok (), t) ∧ fit t ∧ made t = made s ∧
    ∀ m < (made s).length, w.isClosed t m = (w.isClosed s m || m == n)

namespace Registry

/-- Something that happens to a registry. -/
inductive Move
  | lookup (name : String)
  | discover (host : Host)
  | names
  | close
  /-- A controller is closed directly. -/
  | closeController (number : Nat)

/-- A registry with what its lookups answered. -/
structure Course (σ : Type) where
  registry : Registry σ
  /-- The lookups that were answered, by name and with the controller, the newest first. -/
  answers : List (String × Nat) := []
  /-- The names looked up with an answer since the registry was last closed. -/
  recent : List String := []

namespace Course

/-- Something is done with the registry. -/
def onRegistry (p : Procedure Failure (Registry σ) α) : Procedure Failure (Course σ) α := fun c =>
  let (a, r) := p c.registry
  (a, { c with registry := r })

/-- A lookup, with its answer taken down. -/
def find (w : Workshop σ) (name : String) : Procedure Failure (Course σ) Nat := do
  let number ← onRegistry (lookup w name)
  modify fun c => { c with
    answers := (name, number) :: c.answers
    recent := name :: c.recent }
  return number

/-- The lookups of a discovery, with their answers taken down. -/
def findAll (w : Workshop σ) (h : Host) : Procedure Failure (Course σ) (List Nat) := do
  let adapters ← Procedure.ofExcept (Adapters.discover h)
  Procedure.forAll (find w) adapters

/-- A discovery, with what its lookups answered taken down, also if it breaks off. -/
def discover (w : Workshop σ) (h : Host) : Procedure Failure (Course σ) (List Nat) := fun c =>
  let (a, r) := Registry.discover w h c.registry
  (a, { (findAll w h c).2 with registry := r })

/-- A move is made. -/
def act (w : Workshop σ) (c : Course σ) : Move → Course σ
  | .lookup name => (find w name c).2
  | .discover h => (discover w h c).2
  -- To ask for the names changes nothing.
  | .names => c
  | .close => { (onRegistry (close w) c).2 with recent := [] }
  | .closeController number => (onRegistry (inWorkshop (w.close number)) c).2

/-- Moves are made one after another. -/
def run (w : Workshop σ) (ms : List Move) (c : Course σ) : Course σ := ms.foldl (act w) c

end Course

end Registry

end BluetoothControl
