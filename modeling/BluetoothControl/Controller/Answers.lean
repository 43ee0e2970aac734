import BluetoothControl.Controller.Scan

/-!
# What a scan is told

All that a scan learns from outside, as data: what comes of reading the known devices, what it hears
once it has subscribed and while it waits, and how strong each device's signal is in the end.
`Answers.outcome` says what the scan makes of it.
-/

namespace BluetoothControl

/-- What comes of reading the properties of a device. -/
abbrev Reading := Except Failure Props

namespace Reading

/-- The canonical address in the properties. -/
def address? : Reading → Option String
  | .ok props =>
    match props.get? "Address" with
    | some (.text text) => (Address.normalize text).toOption
    | _ => none
  | .error _ => none

/-- The failure, unless it is one of those that are taken. -/
def failure? (taken : Failure → Bool) : Reading → Option Failure
  | .ok _ => none
  | .error f => if taken f then none else some f

/-- Whether the properties report a signal. -/
def hasSignal : Reading → Bool
  | .ok props => ((props.get? "RSSI").bind Value.int?).getD 0 ≠ 0
  | .error _ => false

end Reading

/-- A known device is read twice: for its address, and, if it told one, for its name. -/
structure Inquiry where
  path : String
  first : Reading
  second : Reading

namespace Inquiry

/-- The failures for which a known device is left out. -/
def excuses (f : Failure) : Bool := f.isA .service || f.isA .badValue

/-- The device under the name that it is noted by. -/
def device? (i : Inquiry) : Option (String × Value) :=
  match i.first.address?, i.second with
  | some address, .ok props =>
    some (address, DiscoverySession.nameOf (.ofText? ((props.get? "Name").bind Value.text?)))
  | _, _ => none

/-- The failure that ends the scan. -/
def failure? (i : Inquiry) : Option Failure :=
  match i.first.address? with
  | some _ => i.second.failure? excuses
  | none => i.first.failure? excuses

end Inquiry

/-- An announcement as a session hears it: a path and the device's properties. -/
abbrev Notice := Value × Props

/-- The device under the name that it is noted by, if it is one of the adapter's. -/
def Notice.device? (adapter : String) (n : Notice) : Option (String × Value) :=
  match n.1 with
  | .text path =>
    if ObjectPath.isChild path adapter then
      (DiscoverySession.announced? (.dict n.2)).map fun e => (e.1, DiscoverySession.nameOf e.2)
    else none
  | _ => none

/-- What a scan is told. -/
structure Answers where
  /-- What is read of the adapter's known devices, in order. -/
  known : List Inquiry
  /-- What comes of subscribing, of starting discovery and of coming to wait. -/
  start : Except Failure Unit
  /-- What is heard once the scan has subscribed and while it waits, in order. -/
  heard : List Notice
  /-- What comes of giving up the subscription. -/
  stop : Except Failure Unit
  /-- What comes of reading the device of an address for its signal strength. -/
  signal : String → Reading

namespace Answers

variable (a : Answers) (adapter : String)

/-- The devices that are noted, one after another. -/
def entries : Roster Value :=
  a.known.filterMap Inquiry.device? ++ a.heard.filterMap (Notice.device? adapter)

/-- The devices noted: each address with the name that it was first noted by. -/
def noted : Roster Value := (a.entries adapter).firsts

/-- The devices found: those noted that report a signal in the end. -/
def found : Roster Value := (a.noted adapter).filter fun e => (a.signal e.1).hasSignal

/-- The failures of the final readings. -/
def silences : List Failure :=
  (a.noted adapter).filterMap fun e => (a.signal e.1).failure? (·.isA .service)

/-- The failures that end the scan; it ends with the first. -/
def failures : List Failure :=
  a.known.filterMap Inquiry.failure? ++
    ((failureOf a.start).toList ++ ((failureOf a.stop).toList ++ a.silences adapter))
where
  /-- The failure that a step came to. -/
  failureOf : Except Failure Unit → Option Failure
    | .ok () => none
    | .error f => some f

/-- The first failure, or the answer if there is none. -/
def conclude {α : Type} (fs : List Failure) (answer : α) : Except Failure α :=
  match fs with
  | f :: _ => .error f
  | [] => .ok answer

/-- How the scan ends. -/
def outcome : Except Failure (Roster Value) := conclude (a.failures adapter) (a.found adapter)

/-! ## Lemmas -/

theorem conclude_eq_ok {α : Type} {fs : List Failure} {x y : α} (h : conclude fs x = .ok y) :
    fs = [] ∧ x = y := by
  cases fs with
  | nil => exact ⟨rfl, Except.ok.inj h⟩
  | cons f rest => cases h

theorem conclude_append {α : Type} (fs gs : List Failure) (x : α) :
    conclude (fs ++ gs) x = conclude fs () >>= fun _ => conclude gs x := by
  cases fs <;> rfl

theorem conclude_failureOf (r : Except Failure Unit) :
    conclude (failures.failureOf r).toList () = r := by
  cases r with
  | ok u => rfl
  | error f => rfl

/-- The outcome, one stage after the other. -/
theorem outcome_eq : a.outcome adapter = (do
    conclude (a.known.filterMap Inquiry.failure?) ()
    a.start
    a.stop
    conclude (a.silences adapter) (a.found adapter)) := by
  unfold outcome failures
  simp only [conclude_append, conclude_failureOf]

end Answers

end BluetoothControl
