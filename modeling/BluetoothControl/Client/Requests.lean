import BluetoothControl.Client
import BluetoothControl.Service
import BluetoothControl.Value.Literal

/-!
# The management client: requests

What a client can ask of the management service.  Each request is one task, run on the loop while
its caller waits.
-/

namespace BluetoothControl

namespace Value

/-- Whether a text occurs in another. -/
def occursIn (needle hay : List Char) : Bool :=
  match hay with
  | [] => needle.isEmpty
  | _ :: rest => needle.isPrefixOf hay || occursIn needle rest

/-- Whether a text is a key of a map, an item of a list, or a part of a text. -/
def includes (s : String) : Value → Except Failure Bool
  | dict entries => .ok (entries.any (·.1 == s))
  | list items => .ok (items.any (isText s))
  | text t => .ok (occursIn s.toList t.toList)
  | _ => .error .wrongType

end Value

namespace Client

/-! ## Tasks -/

/-- Calls a method of the management service. -/
def callMethod (path interface member : String) (signature : String := "")
    (body : List Value := []) : Task (List Value) := do
  match Message.call path interface member signature body with
  | .error f => fail f
  | .ok message => call message (interface ++ "." ++ member ++ " on " ++ path)

/-- The first argument of a reply. -/
def firstArgument (body : List Value) : Task Value :=
  match body with
  | [] => fail .emptyBody
  | v :: _ => return v

/-- The value of a property. -/
def getProperty (path interface name : String) : Task Value := do
  let body ← callMethod path propertiesInterface "Get" "ss" [.text interface, .text name]
  return (← firstArgument body).unwrap

/-- The truth of a property. -/
def getFlag (path interface name : String) : Task Bool := do
  return (← getProperty path interface name).truth

/-- All properties that an interface of an object has. -/
def getAll (path interface : String) : Task Props := do
  let body ← callMethod path propertiesInterface "GetAll" "s" [.text interface]
  match ← firstArgument body with
  | .dict entries => return Props.unwrap entries
  | _ => fail .lacksOperation

/-- Switches an adapter. -/
def setPoweredTask (path : String) (powered : Value) : Task Unit :=
  match powered with
  | .bool _ =>
    discard (callMethod path propertiesInterface "Set" "ssv"
      [.text adapterInterface, .text "Powered", .variant "b" powered])
  | v => fail (.notTruthValue v)

/-- A filter entry as a variant; what is none becomes a text. -/
def filterVariant : Value → Value
  | .variant signature v => .variant signature v
  | v => .variant "s" (.text v.display)

/-- Limits what a scan finds. -/
def setDiscoveryFilterTask (path : String) (filters : Value) : Task Unit :=
  match filters with
  | .dict entries =>
    discard (callMethod path adapterInterface "SetDiscoveryFilter" "a\x7bsv\x7d"
      [.dict (entries.map fun e => (e.1, filterVariant e.2))])
  | _ => fail .lacksOperation

/-- The objects that have an interface, among objects with their interfaces. -/
def withInterface (interface : String) : Props → Except Failure (List String)
  | [] => .ok []
  | (path, interfaces) :: rest => do
    let found ← interfaces.includes interface
    let others ← withInterface interface rest
    return if found then path :: others else others

/-- Paths in order. -/
def sortedPaths (paths : List String) : List String := paths.mergeSort fun a b => !(b < a)

/-- The paths of the objects that have an interface. -/
def listObjectsTask (interface : String) : Task (List String) := do
  let body ← callMethod "/" objectManagerInterface "GetManagedObjects"
  match ← firstArgument body with
  | .dict objects =>
    match withInterface interface objects with
    | .ok paths => return sortedPaths paths
    | .error f => fail f
  | _ => fail .lacksOperation

/-- Connects a device under a bound of its own, which may be shorter or longer than the bound
`outer` on the call.  A bound that is not positive elapses before anything is sent. -/
def connectTask (path : String) (timeout outer : Seconds) : Task Unit := do
  let elapsed := Failure.telling timeout
    (.connectElapsed (deviceInterface ++ ".Connect on " ++ path) timeout)
  if !timeout.isPositive then fail elapsed
  tryCatch (discard (callMethod path deviceInterface "Connect")) fun h => do
    match h with
    | .unanswered => if outer.lt timeout then throw h else fail elapsed
    | .failed f => if f.isA .elapsed then fail elapsed else throw h

/-! ## Calls -/

/-- Whether an adapter is powered. -/
def getPowered (path : String) : Action Client Bool :=
  perform (getFlag path adapterInterface "Powered")

/-- Switches an adapter. -/
def setPowered (path : String) (powered : Value) : Action Client Unit :=
  perform (setPoweredTask path powered)

/-- Whether an adapter is discovering devices. -/
def getDiscovering (path : String) : Action Client Bool :=
  perform (getFlag path adapterInterface "Discovering")

/-- Limits what a scan finds. -/
def setDiscoveryFilter (path : String) (filters : Value) : Action Client Unit :=
  perform (setDiscoveryFilterTask path filters)

/-- Has an adapter discover devices. -/
def startDiscovery (path : String) : Action Client Unit :=
  perform (discard (callMethod path adapterInterface "StartDiscovery"))

/-- Has an adapter discover no more. -/
def stopDiscovery (path : String) : Action Client Unit :=
  perform (discard (callMethod path adapterInterface "StopDiscovery"))

/-- The paths of the objects that have an interface. -/
def listObjects (interface : String) : Action Client (List String) :=
  perform (listObjectsTask interface)

/-- The properties of a device. -/
def deviceProperties (path : String) : Action Client Props :=
  perform (getAll path deviceInterface)

/-- The address that a device reports. -/
def getAddress (path : String) : Action Client String := do
  match (← deviceProperties path).get? "Address" with
  | some (.text address) => return address
  | _ => throw (.addressMissing path)

/-- The name that a device reports. -/
def getName (path : String) : Action Client (Option String) := do
  return ((← deviceProperties path).get? "Name").bind Value.text?

/-- The signal strength that a device reports, zero if none. -/
def getRssi (path : String) : Action Client Int := do
  return (((← deviceProperties path).get? "RSSI").bind Value.int?).getD 0

/-- Whether a device is connected. -/
def getConnected (path : String) : Action Client Bool := do
  return (((← deviceProperties path).get? "Connected").map Value.truth).getD false

/-- The bound on a call that has a bound of its own: both in turn, which have to be numbers, and of
like size if only one is whole. -/
def boundWith (timeout own : Seconds) : Except Failure Seconds :=
  let bothWhole := timeout.whole?.isSome && own.whole?.isSome
  if !timeout.isNumber || !own.isNumber then .error .wrongType
  else if !bothWhole && !(timeout.isRepresentable && own.isRepresentable) then .error .tooLarge
  else .ok ((timeout.add own).orElse own)

/-- Connects a device. -/
def connect (path : String) (timeout : Seconds) : Action Client Unit := do
  let bound ← Procedure.ofExcept (boundWith timeout (← current).callTimeout)
  runTask bound (connectTask path timeout bound)

/-- Disconnects a device. -/
def disconnect (path : String) : Action Client Unit :=
  perform (discard (callMethod path deviceInterface "Disconnect"))

/-- Enters a subscriber for new devices. -/
def subscribe (s : Subscriber) : Action Client Nat := perform (subscribeTask s)

/-- Removes a subscription. -/
def unsubscribe (handle : Value) : Action Client Unit := perform (unsubscribeTask handle)

/-- Drops every subscription and closes the connection; once the loop has stopped only the client's
own records go. -/
def close : Action Client Unit := do
  if (← get).loop.isRunning then perform closeTask
  else change fun c => { c with subscriptions := [], bus := none }

/-- What a client on the system bus offers controllers. -/
def service : Service Client :=
  { getPowered := fun path => .bool <$> Client.getPowered path
    setPowered := fun path powered => Client.setPowered path (.bool powered)
    getDiscovering := Client.getDiscovering
    setDiscoveryFilter := fun path filters => Client.setDiscoveryFilter path (.dict filters)
    startDiscovery := Client.startDiscovery
    stopDiscovery := Client.stopDiscovery
    listObjects := fun interface => List.map .text <$> Client.listObjects interface
    getAddress := Client.getAddress
    getName := fun path => .ofText? <$> Client.getName path
    getRssi := Client.getRssi
    getConnected := fun path => .bool <$> Client.getConnected path
    connect := Client.connect
    disconnect := Client.disconnect
    subscribe := fun subscriber => (fun handle => .int handle) <$> Client.subscribe subscriber
    unsubscribe := Client.unsubscribe
    close := Client.close }

end Client

end BluetoothControl
