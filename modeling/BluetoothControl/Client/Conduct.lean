import BluetoothControl.Client.Command

/-!
# Callbacks at work

A callback runs on the loop thread.  It returns, or it fails, or it changes the properties that it
was given, or it makes a blocking call of the client and goes on with what comes of it: while the
loop runs the call is refused before anything is done (`Client.executeOnLoop`), and once the loop
was told to stop it comes as far as from any other thread.
-/

namespace BluetoothControl

namespace Client

/-- A call that was made on the loop thread. -/
def refuse {α : Type} (bound : Seconds) : Action Client α := do
  World.observe (.called (some bound))
  throw .calledOnLoop

/-- The bound on the call for a command, of a client whose own bound is `own`. -/
def Command.bound (own : Seconds) : Command → Except Failure Seconds
  | .connect _ timeout => boundWith timeout own
  | _ => .ok own

/-- A command is carried out on the thread of a loop: a loop that was told to stop does not know its
thread any more. -/
def executeOnLoop (command : Command) : Action Client Answer := do
  if (← get).loop.isRunning then
    refuse (← Procedure.ofExcept (command.bound (← current).callTimeout))
  else execute command

/-- A command is tried on the thread of a loop, and what comes of it is the answer. -/
def tryOnLoop (command : Command) : Action Client (Except Failure Answer) := do
  let r ← (executeOnLoop command).attempt
  if let .error f := r then World.observe (.reentered f)
  return r

end Client

/-- What a callback does when it is called. -/
inductive Conduct
  | returns
  /-- It fails, as it may. -/
  | raises (failure : Failure) (ordinary : failure.kind.isOrdinary = true)
  /-- It changes the properties that it was given. -/
  | changes (f : Props → Props) (next : Conduct)
  /-- It makes a blocking call, and what it does then depends on what comes of it. -/
  | calls (command : Client.Command) (next : Except Failure Answer → Conduct)

namespace Conduct

open Client

/-- A callback does this. -/
def perform : Conduct → Telling Unit
  | returns => return
  | raises failure _ => throw failure
  | changes f next => do
    Telling.change f
    next.perform
  | calls command next => do
    let r ← Telling.reading fun _ => tryOnLoop command
    (next r).perform

end Conduct

/-- What the callback with a reaction does. -/
def Reaction.conduct : Reaction → Conduct
  | .none => .returns
  | .fails => .raises Subscriber.callbackFailure rfl
  | .reenters => .calls (.getPowered "/") fun _ => .raises .calledOnLoop rfl

namespace Client

/-- A live subscription is told of a device; `conduct` says what callbacks do. -/
def tellWith (conduct : Nat × Subscriber → Value → Props → Conduct) (e : Nat × Subscriber)
    (path : Value) : Telling Unit :=
  match e.2 with
  | .callback label _ => do
    let (_, props) ← get
    Telling.reading fun _ => World.observe (.notified label path props)
    (conduct e path props).perform
  | .session number adapter =>
    Telling.reading fun props => World.announceTo number adapter path (.dict props)

/-- What a subscriber does by itself. -/
def usualConduct (e : Nat × Subscriber) (_path : Value) (_props : Props) : Conduct :=
  match e.2 with
  | .callback _ reaction => reaction.conduct
  | .session .. => .returns

end Client

end BluetoothControl
