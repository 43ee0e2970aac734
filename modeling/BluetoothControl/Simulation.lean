import BluetoothControl.Service

/-!
# A simulated management service

A service without a bus behind it: its adapter and its devices are data, and each request can be
told beforehand to turn out otherwise than usual.  Controllers run on it as they run on a client.
-/

namespace BluetoothControl

/-- How a request turns out. -/
inductive Turn
  /-- As the simulated state has it. -/
  | usual
  | fails (failure : Failure)
  /-- With this answer, and nothing else happens. -/
  | answers (value : Value)
  deriving Repr, Inhabited

/-- The state of a simulated service. -/
structure Simulation where
  powered : Value := .bool false
  discovering : Value := .bool false
  /-- Whether a switch has an effect. -/
  powerFollows : Bool := true
  /-- The properties of the devices by path. -/
  devices : List (String × Props) := []
  /-- How the next requests turn out. -/
  script : List (Method × List Turn) := []
  subscribers : List (Nat × Subscriber) := []
  nextHandle : Nat := 1
  deriving Repr, Inhabited

namespace Simulation

/-! ## State -/

/-- The paths of the devices, in order. -/
def paths (s : Simulation) : List String :=
  (s.devices.map (·.1)).mergeSort fun a b => !(b < a)

/-- A device comes, changes or goes. -/
def putDevice (s : Simulation) (path : String) : Option Props → Simulation
  | none => { s with devices := s.devices.filter (·.1 ≠ path) }
  | some props =>
    if s.devices.any (·.1 == path) then
      { s with devices := s.devices.map fun e => if e.1 == path then (path, props) else e }
    else { s with devices := s.devices ++ [(path, props)] }

/-- The turns of a method replaced. -/
def putScript (s : Simulation) (method : Method) (turns : List Turn) : Simulation :=
  { s with script := (method, turns) :: s.script.filter (·.1 ≠ method) }

/-- How the next request of a method turns out. -/
def nextTurn (s : Simulation) (method : Method) : Turn × Simulation :=
  match s.script.lookup method with
  | some (t :: rest) => (t, s.putScript method rest)
  | _ => (.usual, s)

/-! ## Answers out of the ordinary -/

/-- An answer as a signal strength; whatever is not a number counts as a signal. -/
def strengthOf (v : Value) : Int :=
  match v with
  | .int n => n
  | .bool b => if b then 1 else 0
  | .real x => if x == 0 then 0 else 1
  | _ => 1

/-- An answer as an address. -/
def addressOf : Value → Except Failure String
  | .text s => .ok s
  | .bytes _ => .error .wrongType
  | _ => .error .lacksOperation

/-- What a walk over an answer meets: the items of a list, the keys of a map, the numbers of bytes,
the characters of a text. -/
def itemsOf : Value → Except Failure (List Value)
  | .list items => .ok items
  | .dict entries => .ok (entries.map fun e => .text e.1)
  | .bytes bs => .ok (bs.map fun b => .int b.toNat)
  | .text s => .ok (s.toList.map fun c => .text (String.singleton c))
  | _ => .error .wrongType

/-! ## Requests -/

variable {α : Type}

/-- A request is made: `usual` is what happens by itself, `read` reads an answer out of the
ordinary. -/
def request (method : Method) (args : List Value) (read : Value → Except Failure α)
    (usual : Action Simulation α) : Action Simulation α := do
  World.observe (.asked method args)
  let (turn, s) := (← get).service.nextTurn method
  World.changeService fun _ => s
  match turn with
  | .usual => usual
  | .fails f => throw f
  | .answers v => Procedure.ofExcept (read v)

/-- A request without an answer. -/
def command (method : Method) (args : List Value) (usual : Action Simulation Unit) :
    Action Simulation Unit :=
  request method args (fun _ => .ok ()) usual

/-- Something read off the state. -/
def reading (f : Simulation → α) : Action Simulation α := do return f (← get).service

/-- The properties of a device. -/
def device (path : String) : Action Simulation Props := do
  match (← get).service.devices.lookup path with
  | some props => return props
  | none => throw (.unknownDevice path)

/-- A device becomes connected or disconnected. -/
def setConnected (path : String) (connected : Bool) : Action Simulation Unit := do
  let props ← device path
  World.changeService fun s => s.putDevice path (some (props.set "Connected" (.bool connected)))

/-- The address in the properties of a device. -/
def reportedAddress (path : String) (props : Props) : Except Failure String :=
  match props.get? "Address" with
  | some (.text address) => .ok address
  | _ => .error (.addressMissing path)

/-- The simulation as a service. -/
def service : Service Simulation where
  getPowered path :=
    request .getPowered [.text path] .ok (reading (·.powered))
  setPowered path powered :=
    command .setPowered [.text path, .bool powered] do
      World.changeService fun s => if s.powerFollows then { s with powered := .bool powered } else s
  getDiscovering path :=
    request .getDiscovering [.text path] (fun v => .ok v.truth) (reading (·.discovering.truth))
  setDiscoveryFilter path filters :=
    command .setDiscoveryFilter [.text path, .dict filters] (pure ())
  startDiscovery path :=
    command .startDiscovery [.text path]
      (World.changeService fun s => { s with discovering := .bool true })
  stopDiscovery path :=
    command .stopDiscovery [.text path]
      (World.changeService fun s => { s with discovering := .bool false })
  listObjects interface :=
    request .listObjects [.text interface] itemsOf (reading fun s => s.paths.map .text)
  getAddress path :=
    request .getAddress [.text path] addressOf do
      let props ← device path
      Procedure.ofExcept (reportedAddress path props)
  getName path :=
    request .getName [.text path] .ok do
      return .ofText? (((← device path).get? "Name").bind Value.text?)
  getRssi path :=
    request .getRssi [.text path] (fun v => .ok (strengthOf v)) do
      return (((← device path).get? "RSSI").map strengthOf).getD 0
  getConnected path :=
    request .getConnected [.text path] .ok do
      return ((← device path).get? "Connected").getD (.bool false)
  connect path timeout :=
    command .connect [.text path, timeout.toValue] (setConnected path true)
  disconnect path := command .disconnect [.text path] (setConnected path false)
  subscribe subscriber :=
    request .subscribe [] .ok do
      let handle := (← get).service.nextHandle
      World.changeService fun s =>
        { s with nextHandle := handle + 1, subscribers := s.subscribers ++ [(handle, subscriber)] }
      return .int handle
  unsubscribe handle :=
    command .unsubscribe [handle] do
      let present := (← get).service.subscribers
      if !present.isEmpty && !handle.isKey then throw .wrongType
      World.changeService fun s =>
        { s with subscribers := present.filter fun e => !handle.countsAs e.1 }
  close := command .close [] (pure ())

/-! ## Announcements -/

/-- A new device is announced on the loop thread to every subscriber in turn. -/
def announce (path : Value) (props : Props) : Action Simulation Unit := do
  discard (World.onLoop EventLoop.require)
  Procedure.forEach (fun e => e.2.notify (pure ()) path props)
    (← get).service.subscribers

/-! ## Lemmas -/

/-- A request is logged once, however it turns out. -/
theorem request_log (method : Method) (args : List Value) (read : Value → Except Failure α)
    {usual : Action Simulation α} (h : ∀ w, (usual w).2.log = w.log) (w : World Simulation) :
    (request method args read usual w).2.log = w.log ++ [.asked method args] := by
  unfold request
  simp only [Procedure.bind_apply, World.observe, World.changeService, Procedure.modify_apply,
    Procedure.get_apply]
  rcases (w.seeing (.asked method args)).service.nextTurn method with ⟨turn, s⟩
  cases turn with
  | usual => exact h _
  | fails f => rfl
  | answers v => rfl

end Simulation

end BluetoothControl
