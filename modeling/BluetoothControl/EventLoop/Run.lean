import BluetoothControl.EventLoop

/-!
# The life of an event loop

Callers, and whatever else happens to a loop, act on it by moves.  The threads that the loop starts
are numbered from one; besides the loop it is kept which thread each coroutine was handed to and who
waits for which.  A blocking call is two moves, for much can happen while its caller waits; and the
loop goes on by moves of its own, so it need not have come to anything by the time a bound is up.
-/

namespace BluetoothControl

namespace EventLoop

/-- A coroutine that waits ends by itself, if its thread is free. -/
def conclude (ticket : Nat) (outcome : Outcome) (l : EventLoop) : EventLoop :=
  match l.current with
  | none => l
  | some t =>
    match t.suspended.find? (·.ticket == ticket) with
    | none => l
    | some job =>
      if t.occupied then l
      else
        let t := { t with suspended := t.suspended.eraseP (·.ticket == ticket) }
        { l with current := some t }.conclusion job outcome

/-- What occupies a thread stops its loop: the thread that accepts work, or one of those given
up. -/
def sever (place : Option Nat) (l : EventLoop) : EventLoop :=
  match place with
  | none => { l with current := l.current.map (·.sever) }
  | some place => { l with abandoned := l.abandoned.modify place (·.sever) }

/-- Something that happens to an event loop. -/
inductive Move
  | start
  | stop (bound : Seconds)
  /-- A coroutine is handed over. -/
  | submit (body : Coroutine)
  /-- A caller hands a coroutine over and waits for it. -/
  | call (body : Coroutine) (bound : Option Seconds)
  /-- One of the callers that wait goes on: the outcome of its call is there, or its bound is up, or
  nobody waits under it. -/
  | wake (number : Nat)
  | callSoon (args : List Value)
  | block
  | release
  /-- The loop ends by itself. -/
  | kill
  /-- What occupies a thread stops its loop. -/
  | sever (place : Option Nat)
  /-- The loop does the next thing. -/
  | turn
  /-- A coroutine that waits ends by itself. -/
  | conclude (ticket : Nat) (outcome : Outcome)

/-- Whether a move is the end of the loop for callers: it is stopped, whether or not its thread
could be seen to exit, or its thread exits by itself. -/
def Move.ends (l : EventLoop) : Move → Bool
  | .stop _ => true
  | .kill => l.current.all (!·.occupied)
  | .release => l.current.all fun t => t.occupied && t.departs
  | _ => false

/-- The threads that exit by a move. -/
def Move.leaving (l : EventLoop) : Move → List LoopThread
  | .stop _ | .kill => l.current.toList.filter (!·.occupied)
  | .release => (l.abandoned ++ l.current.toList).filter fun t => t.occupied && t.departs
  | _ => []

/-- A loop with what happened to it so far. -/
structure Course where
  loop : EventLoop
  /-- How many threads were started. -/
  started : Nat := 0
  /-- The numbers of the threads given up that are alive, in order. -/
  givenUp : List Nat := []
  /-- The thread that each coroutine was handed to, by ticket. -/
  homes : List Nat := []
  /-- The callers that wait: the ticket and the bound of each. -/
  callers : List (Nat × Option Seconds) := []

namespace Course

/-- A coroutine is handed over. -/
def hand (c : Course) (body : Coroutine) : Course :=
  { c with
    loop := (submit body c.loop).2
    homes := if c.loop.isRunning then c.homes ++ [c.started] else c.homes }

/-- A move is made.  A caller whose call has no outcome and no bound goes on waiting. -/
def act (c : Course) : Move → Course
  | .start =>
    { c with
      loop := (start c.loop).2
      started := if c.loop.isRunning then c.started else c.started + 1 }
  | .stop bound =>
    { c with
      loop := (stop bound c.loop).2
      givenUp := if c.loop.current.any (·.occupied) then c.givenUp ++ [c.started] else c.givenUp }
  | .submit body => c.hand body
  | .call body bound =>
    match (submit body c.loop).1 with
    | .ok ticket => { c.hand body with callers := c.callers ++ [(ticket, bound)] }
    | .error _ => c.hand body
  | .wake number =>
    match c.callers[number]? with
    | none => c
    | some (ticket, bound) =>
      if (c.loop.outcome? ticket).isSome || bound.isSome then
        { c with
          loop := (join (.waiting ticket bound) c.loop).2
          callers := c.callers.eraseIdx number }
      else c
  | .callSoon args => { c with loop := (callSoon args c.loop).2 }
  | .block => { c with loop := (block c.loop).2 }
  -- Whoever was given up was told to end.
  | .release => { c with loop := (release c.loop).2, givenUp := [] }
  | .kill => { c with loop := (kill c.loop).2 }
  | .sever place => { c with loop := c.loop.sever place }
  | .turn => { c with loop := c.loop.turned }
  | .conclude ticket outcome => { c with loop := c.loop.conclude ticket outcome }

/-- Moves are made one after another. -/
def run (c : Course) (ms : List Move) : Course := ms.foldl act c

/-- The threads that are alive, with their numbers. -/
def threads (c : Course) : List (Nat × LoopThread) :=
  c.loop.current.toList.map (fun t => (c.started, t)) ++ c.givenUp.zip c.loop.abandoned

/-- All that is open on the threads that are alive, with their numbers. -/
def pending (c : Course) : List (Nat × Job) :=
  c.threads.flatMap fun e => e.2.jobs.map fun job => (e.1, job)

/-- The thread of this number was started and has exited. -/
def Exited (c : Course) (n : Nat) : Prop :=
  (0 < n ∧ n ≤ c.started) ∧ n ∉ c.threads.map (·.1)

end Course

end EventLoop

end BluetoothControl
