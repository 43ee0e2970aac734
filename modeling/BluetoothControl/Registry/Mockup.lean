import BluetoothControl.Event
import BluetoothControl.Registry

/-!
# Mock-ups

Controllers that do nothing but be built and closed, for names of which some cannot be built or
closed.
-/

namespace BluetoothControl

/-- A controller that does nothing. -/
structure Mockup where
  name : String
  closed : Bool := false
  deriving Repr, DecidableEq

/-- A workshop for mock-ups. -/
structure MockupWorkshop where
  /-- Names that no controller can be built for. -/
  unbuildable : List String := []
  /-- Names whose controllers fail to close. -/
  unclosable : List String := []
  built : List Mockup := []
  /-- What was observed. -/
  log : List Event := []

namespace MockupWorkshop

/-- Something is observed. -/
def observe (e : Event) : Procedure Failure MockupWorkshop Unit :=
  modify fun m => { m with log := m.log ++ [e] }

/-- A mock-up is built. -/
def build (name : String) (config : Option Config) : Procedure Failure MockupWorkshop Nat := do
  observe (.built name config)
  let m ← get
  if m.unbuildable.contains name then throw (.cannotCreate name)
  set { m with built := m.built ++ [Mockup.mk name false] }
  return m.built.length

/-- Whether a mock-up was closed. -/
def isClosed (m : MockupWorkshop) (number : Nat) : Bool :=
  ((m.built[number]?).map (·.closed)).getD false

/-- A mock-up is closed. -/
def close (number : Nat) : Procedure Failure MockupWorkshop Unit := do
  match (← get).built[number]? with
  | none => return
  | some mockup =>
    observe (.closed mockup.name)
    if (← get).unclosable.contains mockup.name then throw (.cannotClose mockup.name)
    modify fun m => { m with built := m.built.set number { mockup with closed := true } }

/-- The workshop itself. -/
def workshop : Workshop MockupWorkshop := { build, isClosed, close }

end MockupWorkshop

end BluetoothControl
