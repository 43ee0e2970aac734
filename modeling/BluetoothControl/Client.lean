import BluetoothControl.Bus.Link
import BluetoothControl.Subscriber

/-!
# The management client: its bus connection

A client holds at most one connection to the system bus.  It connects on first use and again when
the connection went down, and while anyone is subscribed it keeps its notification handler on the
connection it holds.  Everything here runs on the loop thread, as a `Task`; a task can also come to
wait for an answer that never arrives (`Halt.unanswered`), and then only a bound on it ends it.
-/

namespace BluetoothControl

/-- A client of the management service. -/
structure Client where
  link : Link := {}
  /-- The connection held. -/
  bus : Option Nat := none
  /-- The connection that the notification handler is taken to be on. -/
  signalBus : Option Nat := none
  /-- The live subscriptions, in order. -/
  subscriptions : List (Nat × Subscriber) := []
  nextHandle : Nat := 1
  /-- The bound on a call that has none of its own. -/
  callTimeout : Seconds := .real 10.0
  deriving Repr, Inhabited

/-- Why a task does not answer. -/
inductive Halt
  | failed (failure : Failure)
  /-- It waits for an answer that never comes. -/
  | unanswered
  deriving Repr, Inhabited

namespace Halt

/-- A handler for ordinary failures takes it. -/
def isOrdinary : Halt → Bool
  | failed f => f.kind.isOrdinary
  | unanswered => false

/-- A handler for failures of a kind takes it. -/
def isA (k : Kind) : Halt → Bool
  | failed f => f.isA k
  | unanswered => false

end Halt

/-- Something that a client does on the loop thread. -/
abbrev Task := Procedure Halt (World Client)

namespace Client

/-! ## The connection -/

/-- A failure on the loop thread. -/
def fail {α : Type} (f : Failure) : Task α := throw (.failed f)

/-- The client's own state changes. -/
def change {ε : Type} (f : Client → Client) : Procedure ε (World Client) Unit :=
  World.changeService f

/-- The bus changes. -/
def changeLink {ε : Type} (f : Link → Link) : Procedure ε (World Client) Unit :=
  change fun c => { c with link := f c.link }

/-- The client's own state. -/
def current {ε : Type} : Procedure ε (World Client) Client := do return (← get).service

/-- The connection held, if it is up. -/
def openBus? (c : Client) : Option Nat := c.bus.filter c.link.isConnected

/-- A new connection is there. -/
def openBus : Task Nat := do
  let (n, link) := (← current).link.opened
  changeLink fun _ => link
  return n

/-- An attempt to connect. -/
def connectBus : Task Nat := do
  let (outcome, link) := (← current).link.nextConnect
  changeLink fun _ => link
  match outcome with
  | .hangs => throw .unanswered
  | .fails f =>
    World.observe .connectFailed
    fail f
  | .opens =>
    let n ← openBus
    World.observe (.connected n)
    return n
  | .opensDown =>
    let n ← openBus
    World.observe (.connected n)
    changeLink fun l => l.drop n
    World.observe (.lapsed n)
    return n
  | .strays =>
    let n ← openBus
    World.observe (.strayed n)
    throw .unanswered

/-- What comes of a call under a name when its message fares so: the body of the reply; whatever
else comes back is a failure. -/
def verdict (context : String) : Delivery → Except Halt (List Value)
  | .unanswered | .belated _ => .error .unanswered
  | .fails f =>
    .error (.failed (if f.kind.isOrdinary then .notDelivered context f.message else f))
  | .answered .missing => .error (.failed (.noReply context))
  | .answered (.refused r) => .error (.failed (r.failure context))
  | .answered (.returned body) => .ok body

/-- Sends a message on a connection and returns the body of the reply. -/
def exchange (bus : Nat) (message : Message) (context : String) : Task (List Value) := do
  World.observe (.sent bus message)
  let (delivery, link) := (← current).link.nextReply bus
  changeLink fun _ => link
  World.observe (.resolved bus message delivery)
  Procedure.ofExcept (verdict context delivery)

/-- What requests for notifications are called in messages. -/
def addMatchContext : String := "AddMatch InterfacesAdded"
/-- What their withdrawals are called in messages. -/
def removeMatchContext : String := "RemoveMatch InterfacesAdded"

/-- What came of asking for notifications, if it came to this halt. -/
def Halt.consent (h : Halt) : Consent := if h.isA .service then .denied else .interrupted

/-- Puts the notification handler on a connection, unless it is there, and asks for notifications;
if the service fails, the handler comes off again. -/
def installAsking (ask : Task (List Value)) (bus : Nat) : Task Unit := do
  if (← current).signalBus = some bus then return
  changeLink fun l => l.addHandler bus
  World.observe (.handlerAdded bus)
  tryCatch (discard ask) fun h => do
    World.observe (.consented bus (Halt.consent h))
    if h.isA .service then
      changeLink fun l => l.removeHandler bus
      World.observe (.handlerRemoved bus)
    throw h
  World.observe (.consented bus .granted)
  change fun c => { c with signalBus := some bus }

/-- A new connection is held. -/
def reconnect : Task Nat := do
  let n ← tryCatch connectBus fun h => do
    match h with
    | .failed f =>
      if f.kind.isOrdinary then
        change fun c => { c with bus := none }
        fail (.busUnreachable f.message)
      else throw h
    | .unanswered => throw h
  change fun c => { c with bus := some n }
  return n

/-- A new connection is taken up, with the notification handler on it if anyone is subscribed.  That
may end with yet another connection held. -/
def takeUp (ask : Task (List Value)) (bus : Nat) : Task Nat := do
  if (← current).subscriptions.isEmpty then return bus
  installAsking ask bus
  return (← current).bus.getD bus

/-- The connection to use: the one held, or a new one.  The request for notifications needs a
connection to use itself, and goes to another one if the new one is down already: `depth` bounds how
often. -/
def obtainWithin : Nat → Task Nat
  | 0 => throw .unanswered
  | depth + 1 => do
    match (← current).openBus? with
    | some n => return n
    | none => takeUp (do exchange (← obtainWithin depth) .addMatch addMatchContext) (← reconnect)

/-- The connection to use.  Each connection that is down at once is one of the outcomes to come, so
this depth is never exhausted (`obtainBus_eq`). -/
def obtainBus : Task Nat := do
  obtainWithin ((← current).link.connects.length + 2)

/-- Sends a message on the connection to use. -/
def call (message : Message) (context : String) : Task (List Value) := do
  let bus ← obtainBus
  exchange bus message context

/-- Puts the notification handler on a connection. -/
def installHandler (bus : Nat) : Task Unit := installAsking (call .addMatch addMatchContext) bus

/-- Takes the notification handler off the connection it is on, and withdraws the request if that
connection is up. -/
def uninstallHandler : Task Unit := do
  match (← current).signalBus with
  | none => return
  | some bus =>
    change fun c => { c with signalBus := none, link := c.link.removeHandler bus }
    World.observe (.handlerRemoved bus)
    if (← current).link.isConnected bus then
      Procedure.ignoring (Halt.isA .service) (discard (call .removeMatch removeMatchContext))

/-! ## Subscriptions -/

/-- A subscriber is entered and gets a handle; if its notifications cannot be had it is removed. -/
def subscribeTask (s : Subscriber) : Task Nat := do
  let handle := (← current).nextHandle
  change fun c =>
    { c with nextHandle := handle + 1, subscriptions := c.subscriptions ++ [(handle, s)] }
  tryCatch (do installHandler (← obtainBus)) fun h => do
    if h.isA .service then
      change fun c => { c with subscriptions := c.subscriptions.filter (·.1 ≠ handle) }
    throw h
  return handle

/-- A subscription is removed; after the last one the handler goes.  A handle that nothing can be
looked up by is refused while there is anything to look through. -/
def unsubscribeTask (handle : Value) : Task Unit := do
  let live := (← current).subscriptions
  if !live.isEmpty && !handle.isKey then fail .wrongType
  change fun c => { c with subscriptions := live.filter fun e => !handle.countsAs e.1 }
  if (← current).subscriptions.isEmpty then uninstallHandler

/-- Closes a connection. -/
def disconnectBus (bus : Nat) : Task Unit := do
  World.observe (.disconnected bus)
  changeLink fun l => l.drop bus
  match (← current).link.disconnectFailure with
  | some f => fail f
  | none => return

/-- Drops every subscription and closes the connection held. -/
def closeTask : Task Unit := do
  change fun c => { c with subscriptions := [] }
  uninstallHandler
  match (← current).bus with
  | none => return
  | some bus =>
    Procedure.ignoring Halt.isOrdinary (disconnectBus bus)
    change fun c => { c with bus := none }

/-! ## Calls from other threads -/

/-- A task for which nobody waits goes as far as it comes without waiting. -/
def hastily {α : Type} (task : Task α) : Task α := do
  changeLink fun l => l.pace true
  let r ← task.attempt
  changeLink fun l => l.pace false
  Procedure.ofExcept r

/-- A task in the time that a bound on it leaves. -/
def paced {α : Type} (bound : Seconds) (task : Task α) : Task α :=
  match bound.patience with
  | .looks => hastily task
  | _ => task

/-- How a task ended, if it did. -/
def ended? {α : Type} : Except Halt α → Option (Except Failure α)
  | .ok a => some (.ok a)
  | .error (.failed f) => some (.error f)
  | .error .unanswered => none

/-- Runs a task on the loop under a bound.  If the thread is occupied the caller goes on before the
task is let run, and what the task then still does is not followed. -/
def runTask {α : Type} (bound : Seconds) (task : Task α) : Action Client α := do
  World.observe (.called (some bound))
  let w ← get
  match w.loop.current with
  | none => throw (.loopNotRunning w.loop.name)
  | some thread =>
    if thread.occupied then .ofExcept (EventLoop.answer w.loop.name (some bound) true none)
    else
      let (r, v) := paced bound task w
      set v
      .ofExcept (EventLoop.answer w.loop.name (some bound) false (ended? r))

/-- Runs a task under the client's own bound. -/
def perform {α : Type} (task : Task α) : Action Client α := do
  runTask (← current).callTimeout task

end Client

end BluetoothControl
