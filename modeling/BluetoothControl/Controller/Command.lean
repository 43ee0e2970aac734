import BluetoothControl.Answer
import BluetoothControl.Controller.Scan

/-!
# Controllers: commands

Every operation of a controller, and of the connections it handed out, as data.
`Controller.execute` carries one out.
-/

namespace BluetoothControl.Controller

/-- An operation of a controller. -/
inductive Command
  | isUp
  | up
  | down
  | reset
  | stopDiscovery
  | inquire
  | detect (address : String)
  | info
  | scan (timeout : Seconds)
  | connect (address : String) (timeout : Seconds)
  /-- Whether a connection, by the order in which they were handed out, is up. -/
  | isConnected (connection : Nat)
  | disconnect (connection : Nat)
  /-- What a connection says of itself. -/
  | describe (connection : Nat)
  | close
  deriving Repr, Inhabited

variable {κ : Type}

/-- Something is done with a connection, if it was handed out. -/
def withConnection (number : Nat) (f : Connection → Action κ Answer) : Action κ Answer := do
  match (← get).connections[number]? with
  | some connection => f connection
  | none => return .noConnection

/-- A command is carried out. -/
def execute (c : Controller κ) : Command → Action κ Answer
  | .isUp => .value <$> c.isUp
  | .up => (fun _ => .nothing) <$> c.up
  | .down => (fun _ => .nothing) <$> c.down
  | .reset => (fun _ => .nothing) <$> c.reset
  | .stopDiscovery => (fun _ => .nothing) <$> c.stopDiscovery
  | .inquire => (fun r => .roster (r.map fun e => (e.1, .text e.2))) <$> c.inquire
  | .detect address => .flag <$> c.detect address
  | .info => .info <$> c.info
  | .scan timeout => .roster <$> c.scan timeout
  | .connect address timeout => .connection <$> c.connect address timeout
  | .isConnected number =>
    withConnection number fun connection => .value <$> connection.isConnected c.service
  | .disconnect number =>
    withConnection number fun connection => (fun _ => .nothing) <$> connection.disconnect c.service
  | .describe number => withConnection number fun connection => return .connection connection
  | .close => (fun _ => .nothing) <$> c.close

end BluetoothControl.Controller
