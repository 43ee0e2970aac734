import BluetoothControl.Bus.Message

/-!
# Events

What can be observed of a run, in order: traffic on the bus, requests to the management service,
callbacks, pauses, and what the host is asked to do.
-/

namespace BluetoothControl

/-- The requests that a controller makes of the management service. -/
inductive Method
  | getPowered | setPowered | getDiscovering | setDiscoveryFilter | startDiscovery | stopDiscovery
  | listObjects | getAddress | getName | getRssi | getConnected | connect | disconnect
  | subscribe | unsubscribe | close
  deriving Repr, DecidableEq

/-- What comes of asking for notifications for a connection. -/
inductive Consent
  | granted
  /-- The service fails. -/
  | denied
  /-- The asking ends in any other way. -/
  | interrupted
  deriving Repr, DecidableEq

/-- Something observable. -/
inductive Event
  /-- A call was handed to the loop under a bound. -/
  | called (bound : Option Seconds)
  /-- The system bus could not be reached. -/
  | connectFailed
  /-- A bus connection was opened. -/
  | connected (bus : Nat)
  /-- A bus connection was found to be down as soon as it was opened. -/
  | lapsed (bus : Nat)
  /-- A bus connection was opened, and nobody holds it. -/
  | strayed (bus : Nat)
  /-- A message was sent. -/
  | sent (bus : Nat) (message : Message)
  /-- How a message that was sent fared. -/
  | resolved (bus : Nat) (message : Message) (delivery : Delivery)
  /-- The notification handler was added to a bus. -/
  | handlerAdded (bus : Nat)
  /-- What came of asking for notifications once the handler was on a bus. -/
  | consented (bus : Nat) (consent : Consent)
  /-- The notification handler was taken off a bus. -/
  | handlerRemoved (bus : Nat)
  /-- A bus connection was closed. -/
  | disconnected (bus : Nat)
  /-- A subscriber was told of a new device. -/
  | notified (label : String) (path : Value) (props : Props)
  /-- A subscriber's blocking call from the loop thread was refused. -/
  | reentered (failure : Failure)
  /-- A suspended coroutine was cancelled. -/
  | cancelled
  /-- A coroutine that was given up before it was let run was cancelled where it came to wait. -/
  | recalled
  /-- A callback ran; `onLoop` says whether on the loop thread. -/
  | callback (args : List Value) (onLoop : Bool)
  /-- The management service was asked for something. -/
  | asked (method : Method) (args : List Value)
  /-- A pause between two reads. -/
  | slept (duration : Seconds)
  /-- A scan began its wait. -/
  | waited (bound : Seconds)
  /-- The inquiry tool was looked up. -/
  | toolSought (name : String)
  /-- The inquiry tool was run. -/
  | toolRun (argv : List String) (bound : Seconds)
  /-- An adapter socket was opened, or failed to. -/
  | socketOpened (family kind protocol : Nat)
  /-- Device information was requested. -/
  | infoRequested (socket request device : Nat)
  /-- The adapter socket was closed. -/
  | socketClosed
  /-- A controller was built. -/
  | built (name : String) (config : Option Config)
  /-- A controller was told to close. -/
  | closed (name : String)
  deriving Repr, Inhabited

namespace Event

/-- Whether an event is the hand-over of a call to the loop. -/
def isCall : Event → Bool
  | called _ => true
  | _ => false

/-- Whether an event is traffic on the bus: a connection is sought, opened or closed, a message
passes, or the notification handler moves. -/
def isTraffic : Event → Bool
  | connectFailed | connected _ | lapsed _ | strayed _ | sent .. | resolved .. | handlerAdded _
  | consented .. | handlerRemoved _ | disconnected _ => true
  | _ => false

/-- Whether an event is about a message to the management service. -/
def isAddressed : Event → Bool
  | sent _ m | resolved _ m _ => m.destination == serviceName
  | _ => false

/-- Whether an event is a message or the fate of one. -/
def isMessage : Event → Bool
  | sent .. | resolved .. => true
  | _ => false

end Event

/-- There is no traffic on the bus among these. -/
def Silent (es : List Event) : Prop := ∀ e ∈ es, e.isTraffic = false

/-! ## Lemmas -/

/-- What is no message at all is none to the service. -/
theorem Event.isAddressed_of_isMessage {e : Event} (h : e.isMessage = false) :
    e.isAddressed = false := by
  cases e <;> first | rfl | cases h

theorem silent_nil : Silent [] := fun _ h => by cases h

theorem silent_singleton {e : Event} (h : e.isTraffic = false) : Silent [e] :=
  List.forall_mem_singleton.mpr h

theorem silent_append {es fs : List Event} : Silent (es ++ fs) ↔ Silent es ∧ Silent fs :=
  List.forall_mem_append

end BluetoothControl
