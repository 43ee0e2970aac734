import BluetoothControl.Client.Run
import BluetoothControl.Controller.Command

/-!
# The life of a controller

A controller on the system bus lives through moves: operations that callers carry out, scans that
go on part by part, and what happens around it between them.  Once a scan has subscribed, and again
while it waits, anything else can move, another scan too.
-/

namespace BluetoothControl

/-- Something that happens to a controller on the system bus. -/
inductive Controller.Move
  /-- An operation is carried out. -/
  | command (command : Controller.Command)
  /-- A scan does what comes up to its subscription. -/
  | enroll (timeout : Seconds)
  /-- One of the scans that have subscribed starts discovery and comes to wait, or fails. -/
  | embark (number : Nat)
  /-- One of the scans that wait goes on. -/
  | finish (number : Nat)
  /-- A notification arrives. -/
  | signal (signal : Signal)
  /-- A connection to the bus goes down. -/
  | drop (bus : Nat)
  /-- It is settled anew how the next attempts to connect, messages and closings will turn out. -/
  | outlook (connects : List ConnectOutcome) (replies : List ScriptedReply)
      (disconnectFailure : Option Failure)
  /-- The loop ends by itself. -/
  | kill

/-- The world of a controller, with the scans that have subscribed and those that wait. -/
structure Life where
  world : World Client
  enrolled : List Scan := []
  waiting : List Scan := []

namespace Life

/-- A controller that has done nothing yet, whose client has done nothing either. -/
def first (name : String) (link : Link) (callTimeout : Seconds) : Life :=
  { world := .started name { link, callTimeout } }

/-- Something is done in the world; the scans stay where they are. -/
def after {α : Type} (l : Life) (p : Action Client α) : Life := { l with world := (p l.world).2 }

end Life

namespace Controller

/-- A controller on the system bus, with a client of its own or one that was handed to it. -/
def onBus (name : String) (config : Config) (owns : Bool) : Controller Client :=
  { name, config, service := Client.service, ownsService := owns }

/-- A move is made. -/
def act (c : Controller Client) (l : Life) : Move → Life
  | .command command => l.after (c.execute command)
  | .enroll timeout =>
    match c.enroll timeout l.world with
    | (.ok s, w) => { l with world := w, enrolled := l.enrolled ++ [s] }
    | (.error _, w) => { l with world := w }
  | .embark number =>
    match l.enrolled[number]? with
    | some s =>
      let enrolled := l.enrolled.eraseIdx number
      match c.embark s l.world with
      | (.ok (), w) => { world := w, enrolled, waiting := l.waiting ++ [s] }
      | (.error _, w) => { l with world := w, enrolled }
    | none => l
  | .finish number =>
    match l.waiting[number]? with
    | some s => { l.after (c.finishScan s) with waiting := l.waiting.eraseIdx number }
    | none => l
  | .signal s => l.after (Client.signal s)
  | .drop bus => l.after (Client.Move.drop bus).act
  | .outlook connects replies disconnectFailure =>
    l.after (Client.Move.outlook connects replies disconnectFailure).act
  | .kill => l.after (World.onLoop EventLoop.kill)

/-- Moves are made one after another. -/
def run (c : Controller Client) (ms : List Move) (l : Life) : Life := ms.foldl c.act l

/-- Moves are made between the parts of a scan, while other scans stand where they do in `l`. -/
def during (c : Controller Client) (ms : List Move) (l : Life) : Action Client Unit :=
  fun w => (.ok (), (c.run ms { l with world := w }).world)

/-- A scan begins in this life, with these moves once it has subscribed. -/
def begun (c : Controller Client) (timeout : Seconds) (es : List Move) (l : Life) : Life :=
  { c.run es (l.after (c.enroll timeout)) with
    world := (c.beginScan timeout (c.during es l) l.world).2 }

/-! ## Lemmas -/

theorem world_act_enroll (c : Controller Client) (l : Life) (timeout : Seconds) :
    (c.act l (.enroll timeout)).world = (c.enroll timeout l.world).2 := by
  unfold act
  dsimp only
  rcases c.enroll timeout l.world with ⟨r, w⟩
  cases r <;> rfl

theorem world_act_embark (c : Controller Client) (l : Life) (number : Nat) :
    (c.act l (.embark number)).world =
      match l.enrolled[number]? with
      | some s => (c.embark s l.world).2
      | none => l.world := by
  unfold act
  dsimp only
  cases l.enrolled[number]? with
  | none => rfl
  | some s =>
    dsimp only
    rcases c.embark s l.world with ⟨r, w⟩
    cases r <;> rfl

theorem world_act_finish (c : Controller Client) (l : Life) (number : Nat) :
    (c.act l (.finish number)).world =
      match l.waiting[number]? with
      | some s => (c.finishScan s l.world).2
      | none => l.world := by
  unfold act
  dsimp only
  cases l.waiting[number]? <;> rfl

theorem run_cons (c : Controller Client) (m : Move) (rest : List Move) (l : Life) :
    c.run (m :: rest) l = c.run rest (c.act l m) := rfl

end Controller

end BluetoothControl
