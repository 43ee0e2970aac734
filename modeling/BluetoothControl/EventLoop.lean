import BluetoothControl.Event
import BluetoothControl.Patience
import BluetoothControl.Procedure

/-!
# The event loop

One thread runs a loop; callers hand it coroutines and wait for their outcomes under a bound.  Every
coroutine handed over gets a ticket.  It is let run when the loop comes to it, and then ends by
itself (`concluded`) or waits until it does or is cancelled.  The outcome of its call (`finished`)
is another matter: whoever gives a call up settles its outcome at once, while the coroutine is
cancelled only where it next waits.

The thread may be occupied by something that does not return: then work queues up, calls run out
their bounds, and `stop` gives the thread up without seeing it end.  If what occupies the thread
stops the loop itself, the loop ends without having reached what was handed over meanwhile, and some
calls are left without an outcome (`stranded`).
-/

namespace BluetoothControl

/-- What a coroutine answers with. -/
inductive Yield
  /-- A value. -/
  | value (v : Value)
  /-- The failure of a blocking call that it made itself. -/
  | refusal (f : Failure)
  deriving Repr, Inhabited

/-- How a coroutine ended, or what came of its call. -/
abbrev Outcome := Except Failure Yield

/-- What a coroutine does. -/
inductive Coroutine
  /-- Answers at once. -/
  | returns (v : Value)
  /-- Fails at once. -/
  | raises (f : Failure)
  /-- Answers with the name of its thread. -/
  | threadName
  /-- Answers whether it runs on the loop thread. -/
  | onLoop
  /-- Makes a blocking call of its own loop. -/
  | runs (inner : Coroutine)
  /-- Stops its own loop. -/
  | stops
  /-- Waits for ever; once cancelled it ends like this. -/
  | hangs (whenCancelled : Except Failure Value)
  deriving Inhabited

/-- A coroutine with its ticket. -/
structure Job where
  ticket : Nat
  body : Coroutine
  /-- Its call was given up, so it is cancelled where it next waits. -/
  withdrawn : Bool := false

/-- A loop thread that is alive. -/
structure LoopThread where
  /-- Something on the thread does not return. -/
  occupied : Bool := false
  /-- The loop was told to end, and does once it has reached what was handed to it before. -/
  halting : Bool := false
  /-- What occupies the thread has stopped the loop, which ends as soon as the thread is free. -/
  severed : Bool := false
  /-- Callbacks not yet reached. -/
  callbacks : List (List Value) := []
  /-- Coroutines not yet let run. -/
  queued : List Job := []
  /-- Coroutines that wait for ever. -/
  suspended : List Job := []

/-- An event loop and every thread it started that is alive. -/
structure EventLoop where
  name : String := "default"
  /-- The thread that calls go to. -/
  current : Option LoopThread := none
  /-- Threads given up by a `stop` that could not see them end. -/
  abandoned : List LoopThread := []
  /-- The tickets given out so far. -/
  issued : Nat := 0
  /-- What came of calls, by ticket. -/
  finished : List (Nat × Outcome) := []
  /-- How coroutines ended by themselves, by ticket. -/
  concluded : List (Nat × Outcome) := []
  /-- Calls that nobody has given up and that no thread will ever settle. -/
  stranded : List Nat := []
  /-- What was observed. -/
  log : List Event := []

/-- A call made from a caller thread. -/
inductive Call
  /-- It has ended. -/
  | ended (outcome : Outcome)
  /-- It waits for a coroutine under a bound. -/
  | waiting (ticket : Nat) (bound : Option Seconds)

/-! ## Coroutines -/

/-- A failure of a coroutine as the outcome of its call: that it was cancelled is the call's own
cancellation, and two kinds of failure become others. -/
def Failure.filed : Failure → Failure
  | .foreign .withdrawn text reply => .foreign .cancelled text reply
  | .foreign .outOfTurn text reply => .foreign .taskOutOfTurn text reply
  | f => if f.kind = .cancelled then .cancelled else f

/-- The end of a coroutine as the outcome of its call. -/
def Outcome.filed (o : Outcome) : Outcome := o.mapError Failure.filed

namespace Coroutine

/-- How a coroutine that is let run ends by itself, unless it waits for ever. -/
def outcome? (loop : String) : Coroutine → Option Outcome
  | returns v => some (.ok (.value v))
  | raises f => some (.error f)
  | threadName => some (.ok (.value (.text ("HciEventLoop_" ++ loop))))
  | onLoop => some (.ok (.value (.bool true)))
  | runs _ => some (.ok (.refusal .calledOnLoop))
  | stops => some (.ok (.refusal .stoppedOnLoop))
  | hangs _ => none

/-- How a coroutine ends that is cancelled while it waits. -/
def afterCancel : Coroutine → Outcome
  | hangs (.ok v) => .ok (.value v)
  | hangs (.error f) => .error f
  | _ => .error .cancelled

end Coroutine

/-- What becomes of a coroutine when its thread ends. -/
inductive Fate
  /-- It is cancelled, and ends like this. -/
  | cancelled (outcome : Outcome)
  /-- It still ends by itself. -/
  | concludes (outcome : Outcome)
  /-- Nobody learns what becomes of it, even if it still ends by itself. -/
  | lost (own : Option Outcome)

namespace Fate

/-- What comes of the call. -/
def outcome? : Fate → Option Outcome
  | cancelled o | concludes o => some o.filed
  | lost _ => none

/-- How the coroutine ends by itself. -/
def own? : Fate → Option Outcome
  | cancelled _ => none
  | concludes o => some o
  | lost own => own

end Fate

/-! ## Threads -/

/-- A job is given up if it has this ticket. -/
def Job.withdraw (ticket : Nat) (job : Job) : Job :=
  if job.ticket = ticket then { job with withdrawn := true } else job

namespace LoopThread

/-- All that is open on a thread. -/
def jobs (t : LoopThread) : List Job := t.suspended ++ t.queued

/-- A call is given up. -/
def withdraw (ticket : Nat) (t : LoopThread) : LoopThread :=
  { t with
    queued := t.queued.map (Job.withdraw ticket)
    suspended := t.suspended.map (Job.withdraw ticket) }

/-- The loop ends as soon as its thread is free. -/
def departs (t : LoopThread) : Bool := t.halting || t.severed

/-- What occupies the thread stops its loop. -/
def sever (t : LoopThread) : LoopThread := if t.occupied then { t with severed := true } else t

/-- What becomes of a coroutine that waits when its thread ends: it is cancelled.  A loop that was
stopped from within and told to end besides breaks off before it can say so. -/
def fateOfSuspended (t : LoopThread) (job : Job) : Fate :=
  if t.severed && t.halting then .lost none else .cancelled job.body.afterCancel

/-- What becomes of a coroutine that was not let run yet when its thread ends: it is cancelled and
never runs.  A loop that was stopped from within has not come to it then; the loop comes to it while
it winds up, if it was not told to end besides, and settles its call if there is something to
cancel first. -/
def fateOfQueued (loop : String) (t : LoopThread) (job : Job) : Fate :=
  if !t.severed then .cancelled (.error .cancelled)
  else if t.halting then .lost none
  else
    match job.body.outcome? loop with
    | some o => if t.suspended.isEmpty then .lost (some o) else .concludes o
    | none => .lost none

/-- What becomes of all that is open on a thread when it ends. -/
def fates (loop : String) (t : LoopThread) : List (Job × Fate) :=
  t.suspended.map (fun job => (job, t.fateOfSuspended job)) ++
    t.queued.map fun job => (job, t.fateOfQueued loop job)

end LoopThread

/-- What comes of the calls that nobody has given up. -/
def outcomesOf (fates : List (Job × Fate)) : List (Nat × Outcome) :=
  fates.filterMap fun e => if e.1.withdrawn then none else e.2.outcome?.map fun o => (e.1.ticket, o)

/-- How the coroutines end by themselves. -/
def conclusionsOf (fates : List (Job × Fate)) : List (Nat × Outcome) :=
  fates.filterMap fun e => e.2.own?.map fun o => (e.1.ticket, o)

/-- The calls that nobody has given up and of which nothing comes. -/
def lossesOf (fates : List (Job × Fate)) : List Nat :=
  fates.filterMap fun e =>
    if e.1.withdrawn || e.2.outcome?.isSome then none else some e.1.ticket

/-- A step of an event loop. -/
abbrev LoopAction := Procedure Failure EventLoop

namespace EventLoop

/-- Whether calls are accepted. -/
def isRunning (l : EventLoop) : Bool := l.current.isSome

/-- The number of loop threads that are alive. -/
def alive (l : EventLoop) : Nat := l.current.toList.length + l.abandoned.length

/-! ## What callers are told -/

/-- What a caller is told whose bound is up. -/
def unfinished (loop : String) : Option Seconds → Failure
  | some b => .telling b (.callUnfinished loop b)
  | none => .boundMissing

/-- How a failure reaches the caller: an elapsed time is taken for the bound's, a withdrawal for the
loop's, and all else passes unchanged. -/
def settleFailure (loop : String) (bound : Option Seconds) (f : Failure) : Failure :=
  if f.isA .elapsed then unfinished loop bound
  else
    match f with
    | .cancelled => .callCancelled loop
    | f => if f.isA .withdrawn then .callCancelled loop else f

/-- What a caller is told that goes on without an outcome: that there is none in time, or why nobody
waits under such a bound. -/
def untold (loop : String) (bound : Option Seconds) : Failure :=
  (Patience.under bound).refusal?.getD (unfinished loop bound)

/-- What a caller is told when it goes on. -/
def told {α : Type} (loop : String) (bound : Option Seconds) :
    Option (Except Failure α) → Except Failure α
  | some o => o.mapError (settleFailure loop bound)
  | none => .error (untold loop bound)

/-- What a caller is told of a coroutine that would end like this: how it ended, if the wait lasts
and the thread is free; whoever cannot wait goes on before. -/
def answer {α : Type} (loop : String) (bound : Option Seconds) (occupied : Bool)
    (own : Option (Except Failure α)) : Except Failure α :=
  told loop bound
    (if (Patience.under bound).lasts && !occupied then own.map (·.mapError Failure.filed) else none)

/-! ## Starting and ending -/

/-- A loop with a thread ended. -/
def ending (l : EventLoop) (t : LoopThread) : EventLoop :=
  { l with
    finished := l.finished ++ outcomesOf (t.fates l.name)
    concluded := l.concluded ++ conclusionsOf (t.fates l.name)
    stranded := l.stranded ++ lossesOf (t.fates l.name)
    log := l.log ++ t.suspended.map fun _ => .cancelled }

/-- A running loop stays as it is, else a new thread is started. -/
def start : LoopAction Unit :=
  modify fun l => if l.isRunning then l else { l with current := some {} }

/-- The thread that accepts work. -/
def require : LoopAction LoopThread := do
  let l ← get
  match l.current with
  | some t => return t
  | none => throw (.loopNotRunning l.name)

/-- The loop is forgotten and told to end; an occupied thread cannot, and is given up. -/
def stop (bound : Seconds) : LoopAction Unit := do
  let l ← get
  match l.current with
  | none => return
  | some t =>
    if t.occupied then
      set { l with current := none, abandoned := l.abandoned ++ [{ t with halting := true }] }
      throw (.telling bound (.threadStuck l.name bound))
    else
      set ({ l with current := none }.ending t)

/-- The loop ends by itself, once its thread is free. -/
def kill : LoopAction Unit :=
  modify fun l =>
    match l.current with
    | none => l
    | some t =>
      if t.occupied then { l with current := some { t with halting := true } }
      else { l with current := none }.ending t

/-! ## Work -/

/-- A coroutine is handed over and gets a ticket. -/
def submit (body : Coroutine) : LoopAction Nat := do
  let t ← require
  let l ← get
  let job : Job := { ticket := l.issued, body }
  set { l with
    issued := l.issued + 1, current := some { t with queued := t.queued ++ [job] } }
  return l.issued

/-- A coroutine ends by itself. -/
def conclusion (job : Job) (o : Outcome) (l : EventLoop) : EventLoop :=
  { l with
    concluded := l.concluded ++ [(job.ticket, o)]
    finished := l.finished ++ if job.withdrawn then [] else [(job.ticket, o.filed)] }

/-- A job is let run on the thread: it ends by itself or comes to wait, and there it is cancelled if
its call was given up. -/
def letRun (job : Job) (t : LoopThread) (l : EventLoop) : EventLoop :=
  match job.body.outcome? l.name with
  | some o => { l with current := some t }.conclusion job o
  | none =>
    if job.withdrawn then { l with current := some t, log := l.log ++ [.recalled] }
    else { l with current := some { t with suspended := t.suspended ++ [job] } }

/-- The next thing that the loop does, if its thread is free: what waits and was given up is
cancelled, else what was handed over first is let run. -/
def turned (l : EventLoop) : EventLoop :=
  match l.current with
  | none => l
  | some t =>
    if t.occupied then l
    else if t.suspended.any (·.withdrawn) then
      { l with
        current := some { t with suspended := t.suspended.eraseP (·.withdrawn) }
        log := l.log ++ [.cancelled] }
    else
      match t.queued with
      | [] => l
      | job :: rest => l.letRun job { t with queued := rest }

/-- The loop goes on until nothing is left but to wait. -/
def goOn : LoopAction Unit :=
  modify fun l => Nat.repeat turned ((l.current.map (·.jobs.length)).getD 0) l

/-- What came of the call with a ticket. -/
def outcome? (l : EventLoop) (ticket : Nat) : Option Outcome := l.finished.lookup ticket

/-- A call is given up: that settles its outcome, and its coroutine is cancelled where it next
waits. -/
def giveUp (ticket : Nat) (l : EventLoop) : EventLoop :=
  { l with
    current := l.current.map (·.withdraw ticket)
    abandoned := l.abandoned.map (·.withdraw ticket)
    finished := l.finished ++ [(ticket, .error .cancelled)]
    stranded := l.stranded.filter (· != ticket) }

/-- A caller goes on: it learns the outcome of its call, or gives the call up, unless nobody waits
under such a bound. -/
def join : Call → LoopAction Yield
  | .ended o => .ofExcept o
  | .waiting ticket bound => do
    let l ← get
    if (l.outcome? ticket).isNone && (Patience.under bound).refusal?.isNone then
      set (l.giveUp ticket)
    .ofExcept (told l.name bound (l.outcome? ticket))

/-- A call is begun.  While its caller waits the loop goes on; where it cannot, a bound runs out. -/
def begin (body : Coroutine) (bound : Option Seconds) : LoopAction Call := do
  match ← (submit body).attempt with
  | .error f => return .ended (.error f)
  | .ok ticket =>
    if (Patience.under bound).lasts then
      goOn
      if bound.isNone || !(← get).current.any (·.occupied) then return .waiting ticket bound
    return .ended (← (join (.waiting ticket bound)).attempt)

/-- A blocking call. -/
def run (body : Coroutine) (bound : Option Seconds) : LoopAction Yield := do
  let call ← begin body bound
  join call

/-- A callback is handed over. -/
def callSoon (args : List Value) : LoopAction Unit := do
  let t ← require
  modify fun l =>
    if t.occupied then { l with current := some { t with callbacks := t.callbacks ++ [args] } }
    else { l with log := l.log ++ [.callback args true] }

/-- The thread is occupied until `release`. -/
def block : LoopAction Unit := do
  let t ← require
  modify fun l => { l with current := some { t with occupied := true } }

/-- A thread goes on: callbacks run, and it ends if its loop does. -/
def resume (l : EventLoop) (t : LoopThread) : EventLoop × Option LoopThread :=
  let l := { l with log := l.log ++ t.callbacks.map fun args => Event.callback args true }
  let t := { t with callbacks := [] }
  if t.departs then (l.ending t, none) else (l, some { t with occupied := false })

/-- Threads go on in turn; those that end are dropped. -/
def resumeAll : List LoopThread → EventLoop → EventLoop × List LoopThread
  | [], l => (l, [])
  | t :: rest, l =>
    let (l, kept) := if t.occupied then l.resume t else (l, some t)
    let (l, others) := resumeAll rest l
    (l, kept.toList ++ others)

/-- Every occupied thread goes on. -/
def release : LoopAction Unit :=
  modify fun l =>
    let (l, abandoned) := resumeAll l.abandoned l
    let (l, current) := resumeAll l.current.toList l
    { l with current := current.head?, abandoned }

end EventLoop

end BluetoothControl
