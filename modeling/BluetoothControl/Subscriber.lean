import BluetoothControl.World

/-!
# Subscribers

Who is told of new devices: callbacks of a caller, and the discovery sessions of scans.
-/

namespace BluetoothControl

/-- What a subscriber does when it is told of a device. -/
inductive Reaction
  | none
  /-- It fails. -/
  | fails
  /-- It makes a blocking call. -/
  | reenters
  deriving Repr, DecidableEq

/-- Who is told of new devices. -/
inductive Subscriber
  /-- A callback with a label. -/
  | callback (label : String) (reaction : Reaction)
  /-- The discovery session of an adapter's scan. -/
  | session (number : Nat) (adapter : String)
  deriving Repr, Inhabited

namespace Subscriber

variable {κ : Type}

/-- What a failing callback fails with. -/
def callbackFailure : Failure := .foreign .runtime "callback failed" none

/-- A subscriber is told of a device on the loop thread; `reenter` is what its blocking call does
there. -/
def notify (reenter : Action κ Unit) (path : Value) (props : Props) : Subscriber → Action κ Unit
  | callback label reaction => do
    World.observe (.notified label path props)
    match reaction with
    | .none => return
    | .fails => throw callbackFailure
    | .reenters => reenter
  | session number adapter => World.announceTo number adapter path (.dict props)

end Subscriber

end BluetoothControl
