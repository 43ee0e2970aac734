import BluetoothControl.Config
import BluetoothControl.Failure
import BluetoothControl.ObjectPath

/-!
# Bus messages

Method calls as they are sent, and the replies to them.  A call names an object path, and one with
a malformed path cannot be built (`Message.call`).
-/

namespace BluetoothControl

/-- A method call on the system bus. -/
structure Message where
  destination : String
  path : String
  interface : String
  member : String
  signature : String := ""
  body : List Value := []
  deriving Repr, Inhabited

/-- An error reply; a name or a body may be missing. -/
structure ErrorReply where
  name : Option String := none
  body : Value := .null
  deriving Repr, Inhabited

/-- What comes back for a method call. -/
inductive Reply
  /-- The method returned this body. -/
  | returned (body : List Value)
  /-- The method failed. -/
  | refused (reply : ErrorReply)
  /-- There is no reply message. -/
  | missing
  deriving Repr, Inhabited

/-- How a message fares. -/
inductive Delivery
  /-- A reply comes. -/
  | answered (reply : Reply)
  /-- Sending fails. -/
  | fails (failure : Failure)
  /-- No answer ever comes. -/
  | unanswered
  /-- A reply comes, but only after whoever waited for it has given up. -/
  | belated (reply : Reply)
  deriving Repr, Inhabited

/-- A notification, or any other incoming message, as handlers see it. -/
structure Signal where
  isSignal : Bool := true
  interface : String := objectManagerInterface
  member : String := "InterfacesAdded"
  body : List Value := []
  deriving Repr, Inhabited

namespace Message

/-- The bus daemon's own name and interface. -/
def daemonName : String := "org.freedesktop.DBus"

/-- The bus daemon's object. -/
def daemonPath : String := "/org/freedesktop/DBus"

/-- The rule that asks for notifications of new objects. -/
def objectsAddedRule : String :=
  "type='signal',sender='" ++ serviceName ++ "',interface='" ++ objectManagerInterface ++
    "',member='InterfacesAdded'"

/-- A call of the management service, refused if its object path is malformed. -/
def call (path interface member signature : String) (body : List Value) :
    Except Failure Message :=
  if ObjectPath.isValid path then
    .ok ⟨serviceName, path, interface, member, signature, body⟩
  else .error (.malformedPath path)

/-- A match-rule request to the bus daemon. -/
def matchRule (member : String) : Message :=
  ⟨daemonName, daemonPath, daemonName, member, "s", [.text objectsAddedRule]⟩

/-- Asks the daemon to forward notifications. -/
def addMatch : Message := matchRule "AddMatch"

/-- Takes the request back. -/
def removeMatch : Message := matchRule "RemoveMatch"

/-- Whether a message is a request to the bus daemon for notifications. -/
def isAddMatch (m : Message) : Bool := m.destination == daemonName && m.member == "AddMatch"

end Message

namespace ErrorReply

/-- The name of an error; an empty one counts as missing. -/
def errorName (r : ErrorReply) : String :=
  match r.name with
  | some name => if name = "" then "unknown" else name
  | none => "unknown"

/-- The text that explains an error: the first argument if it is a text, else the error's name. -/
def detail (r : ErrorReply) : Except Failure String :=
  if !r.body.truth then .ok r.errorName
  else
    match r.body with
    | .list (.text s :: _) => .ok s
    | .list _ | .bytes _ => .ok r.errorName
    | .text s => .ok (String.ofList (s.toList.take 1))
    | .dict _ => .error .missingKey
    | _ => .error .wrongType

/-- The failure that an error reply to the call `context` stands for. -/
def failure (r : ErrorReply) (context : String) : Failure :=
  match r.detail with
  | .ok detail => .refused context r.errorName detail
  | .error f => f

end ErrorReply

namespace Delivery

/-- To whoever has no time to wait, a reply comes too late. -/
def hurried : Delivery → Delivery
  | answered reply => belated reply
  | d => d

/-- The method returned. -/
def isAccepted : Delivery → Bool
  | answered (.returned _) => true
  | _ => false

/-- The call ends without an answer and without a failure of the service: it is cancelled, or
nothing ever comes, or what comes is an error reply that cannot be read. -/
def isInterrupted : Delivery → Bool
  | unanswered | belated _ => true
  | fails f => !f.kind.isOrdinary
  | answered (.refused r) => r.detail.toOption.isNone
  | _ => false

end Delivery

/-! ## Lemmas -/

theorem Message.destination_of_call {path interface member signature : String}
    {body : List Value} {m : Message}
    (h : Message.call path interface member signature body = .ok m) :
    m.destination = serviceName := by
  unfold Message.call at h
  split at h
  · cases h
    rfl
  · cases h

/-- An unreadable error reply fails in the reading, not as a failure of the service. -/
theorem ErrorReply.kind_of_detail_error {r : ErrorReply} {f : Failure} (h : r.detail = .error f) :
    f.isA .service = false := by
  unfold ErrorReply.detail at h
  split at h
  · cases h
  · split at h
    · cases h
    · cases h
    · cases h
    · cases h
    · cases h
      decide
    · cases h
      decide

end BluetoothControl
