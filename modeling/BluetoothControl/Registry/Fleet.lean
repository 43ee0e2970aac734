import BluetoothControl.Controller
import BluetoothControl.Registry

/-!
# Fleets

Controllers that each have a loop and a client of their own, on one system bus.
-/

namespace BluetoothControl

/-- A controller with the world around it. -/
structure Fleet.Member where
  controller : Controller Client
  world : World Client

/-- Controllers in the order in which they were built. -/
structure Fleet where
  /-- The bus that they share. -/
  link : Link := {}
  members : List Fleet.Member := []
  /-- What was observed. -/
  log : List Event := []

namespace Fleet

/-- A controller is built. -/
def build (name : String) (config : Option Config) : Procedure Failure Fleet Nat :=
  modifyGet fun f =>
    let config := config.getD {}
    let member : Member := ⟨.ofName name config, Controller.firstWorld name config⟩
    (f.members.length, { f with members := f.members ++ [member] })

/-- Whether a controller was closed. -/
def isClosed (f : Fleet) (number : Nat) : Bool :=
  ((f.members[number]?).map (·.world.closed)).getD false

/-- The world of a member while it acts: the shared bus is its own. -/
def lent (f : Fleet) (w : World Client) : World Client :=
  { w with service := { w.service with link := f.link } }

/-- A controller is closed. -/
def close (number : Nat) : Procedure Failure Fleet Unit := fun f =>
  match f.members[number]? with
  | none => (.ok (), f)
  | some member =>
    let (r, w) := member.controller.close (f.lent member.world)
    (r, { link := w.service.link
          members := f.members.set number { member with world := { w with log := [] } }
          log := f.log ++ w.log })

/-- The workshop of a fleet. -/
def workshop : Workshop Fleet := { build, isClosed, close }

end Fleet

end BluetoothControl
