import BluetoothControl.Controller.Command

/-!
# Scenarios

A scenario is a list of steps, carried out one after another.  A step prepares the world and acts,
or it is a scan with the steps that others take while the scan waits.  Each step is reported with
its outcome, what was observed of it, and the world it left behind.
-/

namespace BluetoothControl

/-- A step of a scenario. -/
inductive Step (κ : Type)
  /-- The world is prepared, then something is done. -/
  | perform (preparation : Action κ Unit) (action : Action κ Answer)
  /-- The world is prepared, then a scan is carried out: `meanwhile` happens during its wait, and
  `aftermath` changes the world afterwards, also if it never came to wait. -/
  | scan (preparation : Action κ Unit) (controller : Controller κ) (timeout : Seconds)
      (meanwhile : List (Step κ)) (aftermath : Action κ Unit)

/-- What became of a step. -/
structure Report (κ : Type) where
  outcome : Except Failure Answer
  /-- What was observed, for a scan after its wait only. -/
  events : List Event
  /-- The world afterwards. -/
  after : World κ
  /-- What was observed of a scan up to its wait, if it came to wait. -/
  beforeWait : Option (List Event) := none
  /-- The steps taken during the wait, each with whether the scan still waited after it. -/
  meanwhile : List (Report κ × Bool) := []

namespace Step

variable {κ : Type}

/-- An operation with its failure and what was observed of it and of what came before. -/
def observed {α : Type} (p : Action κ α) (w : World κ) :
    (Except Failure α × List Event) × World κ :=
  let (r, w) := p w
  ((r, w.log), { w with log := [] })

mutual

/-- A step is taken. -/
def run (w : World κ) : Step κ → Report κ × World κ
  | .perform preparation action =>
    let ((outcome, events), w) := observed (do preparation; action) w
    ({ outcome, events, after := w }, w)
  | .scan preparation controller timeout meanwhile aftermath =>
    match observed (do preparation; controller.beginScan timeout (pure ())) w with
    | ((.error f, events), w) =>
      let (_, w) := aftermath w
      ({ outcome := .error f, events, after := w }, w)
    | ((.ok waiting, before), w) =>
      let (reports, w) := runDuring w.wakes w meanwhile
      let ((outcome, events), w) := observed (do aftermath; controller.finishScan waiting) w
      ({ outcome := outcome.map .roster, events, after := w, beforeWait := some before,
         meanwhile := reports }, w)

/-- Steps are taken during a wait that began when everyone had been woken `wakes` times. -/
def runDuring (wakes : Nat) (w : World κ) : List (Step κ) → List (Report κ × Bool) × World κ
  | [] => ([], w)
  | step :: rest =>
    let (report, w) := run w step
    let (reports, w') := runDuring wakes w rest
    ((report, w.wakes == wakes) :: reports, w')

end

/-- Steps are taken in turn. -/
def runAll (w : World κ) : List (Step κ) → List (Report κ) × World κ
  | [] => ([], w)
  | step :: rest =>
    let (report, w) := run w step
    let (reports, w) := runAll w rest
    (report :: reports, w)

end Step

end BluetoothControl
