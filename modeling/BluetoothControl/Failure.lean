import BluetoothControl.Seconds
import BluetoothControl.Text.Quoted

/-!
# Failures

Why an operation stopped.  A `Failure` is a cause; its `kind` is what callers tell apart, its
`message` what they read, and its `reply` the name of the error reply behind it, if the management
service sent one.  `Kind.isA` orders the kinds: a handler for one also takes those below it.
-/

namespace BluetoothControl

/-- What callers can tell apart. -/
inductive Kind
  /-- Some failure of the library. -/
  | library
  /-- The management service failed. -/
  | service
  /-- The event loop is not there to carry out a call. -/
  | loopStopped
  /-- An adapter did not reach the requested power state. -/
  | powerTimeout
  /-- An argument has no meaning. -/
  | badValue
  /-- A map lacks a key. -/
  | missingKey
  /-- A value has the wrong type. -/
  | wrongType
  /-- A value lacks an operation. -/
  | missingOperation
  /-- A list is too short. -/
  | outOfRange
  /-- An operation is out of place. -/
  | runtime
  /-- The operating system refused. -/
  | system
  /-- A stream ended. -/
  | endOfStream
  /-- Time ran out. -/
  | elapsed
  /-- A connection broke. -/
  | connection
  /-- The work was cancelled. -/
  | cancelled
  /-- An object path is malformed. -/
  | objectPath
  /-- An argument does not have the type that its place in a message has. -/
  | badArgument
  /-- A number is too large for a calculation. -/
  | overflow
  /-- Whoever waited for an outcome finds it withdrawn. -/
  | withdrawn
  /-- Some kind below that one. -/
  | withdrawnOtherwise
  /-- An outcome was set or asked for out of turn. -/
  | outOfTurn
  /-- The same, of a task on a loop. -/
  | taskOutOfTurn
  /-- Bytes are no text. -/
  | undecodable
  deriving Repr, DecidableEq

namespace Kind

/-- The kinds that a kind belongs to, itself among them. -/
def ancestors : Kind → List Kind
  | service => [service, library]
  | loopStopped => [loopStopped, service, library]
  | powerTimeout => [powerTimeout, library, elapsed, system]
  | elapsed => [elapsed, system]
  | connection => [connection, system]
  | withdrawnOtherwise => [withdrawnOtherwise, withdrawn]
  | undecodable => [undecodable, badValue]
  | k => [k]

/-- Whether a handler for `j` takes failures of kind `k`. -/
def isA (k j : Kind) : Bool := k.ancestors.contains j

/-- Whether a handler for every ordinary failure takes it; cancellation passes. -/
def isOrdinary (k : Kind) : Bool := k ≠ cancelled

/-- The kind of an operating-system error: some numbers say that time ran out or that a connection
broke. -/
def ofErrorNumber (number : Int) : Kind :=
  if number = 110 then elapsed
  else if [32, 103, 104, 108, 111].contains number then connection
  else system

/-! ## Lemmas -/

theorem isA_refl (k : Kind) : k.isA k := by cases k <;> decide

theorem mem_ancestors_trans (i : Kind) :
    ∀ j ∈ i.ancestors, ∀ k ∈ j.ancestors, k ∈ i.ancestors := by
  cases i <;> decide

theorem isA_trans {i j k : Kind} (h : i.isA j) (h' : j.isA k) : i.isA k := by
  simp only [isA, List.contains_iff_mem] at h h' ⊢
  exact mem_ancestors_trans i j h k h'

end Kind

/-- The cause of a failure. -/
inductive Failure
  /-- The text is no device address. -/
  | malformedAddress (text : String)
  /-- The name does not end in an adapter number. -/
  | notAdapterName (name : String)
  /-- The path is no object path. -/
  | malformedPath (path : String)
  /-- The loop is not running. -/
  | loopNotRunning (loop : String)
  /-- The loop ended with the call still open. -/
  | callCancelled (loop : String)
  /-- The bound on a call elapsed first. -/
  | callUnfinished (loop : String) (bound : Seconds)
  /-- A call without a bound was reported as elapsed. -/
  | boundMissing
  /-- The loop thread did not exit within the bound. -/
  | threadStuck (loop : String) (bound : Seconds)
  /-- A blocking call was made from the loop thread. -/
  | calledOnLoop
  /-- The loop was told to stop from its own thread. -/
  | stoppedOnLoop
  /-- Work was cancelled. -/
  | cancelled
  /-- The system bus cannot be reached. -/
  | busUnreachable (cause : String)
  /-- The call was answered with an error reply. -/
  | refused (context name detail : String)
  /-- The call got no reply. -/
  | noReply (context : String)
  /-- The call did not get through. -/
  | notDelivered (context cause : String)
  /-- A reply has no body. -/
  | emptyBody
  /-- A value lacks the operation that its place needs. -/
  | lacksOperation
  /-- A value does not have the type that its place needs. -/
  | wrongType
  /-- A map lacks a key. -/
  | missingKey
  /-- The argument is no truth value. -/
  | notTruthValue (found : Value)
  /-- No floating-point number is near the whole number. -/
  | tooLarge
  /-- The clock does not count that far. -/
  | beyondClock (duration : Seconds)
  /-- Some time ahead is needed, and the number says how long ago. -/
  | negativePause
  /-- A duration is not a number. -/
  | notNumber
  /-- The device did not connect in time. -/
  | connectElapsed (context : String) (bound : Seconds)
  /-- The device reports no address. -/
  | addressMissing (path : String)
  /-- The service knows no such device. -/
  | unknownDevice (path : String)
  /-- The adapter did not change its power state. -/
  | powerUnchanged (adapter : String)
  /-- The inquiry tool is not installed. -/
  | toolMissing
  /-- The inquiry tool took too long. -/
  | toolElapsed (verb adapter : String) (bound : Seconds)
  /-- The inquiry tool could not be run. -/
  | toolFailed (verb adapter cause : String)
  /-- The inquiry tool exited with a status other than zero. -/
  | toolExited (verb adapter : String) (status : Int) (text : String)
  /-- What the inquiry tool is asked cannot be handed to a program. -/
  | notArguments
  /-- What the inquiry tool printed is no text. -/
  | notText (complaint : String)
  /-- The host has no device information. -/
  | infoUnsupported
  /-- Device information could not be read. -/
  | infoUnreadable (adapter cause : String)
  /-- A controller could not be built. -/
  | cannotCreate (name : String)
  /-- A controller could not be closed. -/
  | cannotClose (name : String)
  /-- The operating system refused with this error number. -/
  | system (number : Int) (text : String)
  /-- A peer, a callback or a coroutine failed with this kind and text. -/
  | foreign (kind : Kind) (text : String) (reply : Option String)
  deriving Repr, Inhabited

namespace Failure

open BluetoothControl.Text BluetoothControl.Decimal

/-- The kind of a failure. -/
def kind : Failure → Kind
  | malformedAddress _ | notAdapterName _ | negativePause | notNumber | notArguments => .badValue
  | malformedPath _ => .objectPath
  | loopNotRunning _ | callCancelled _ => .loopStopped
  | boundMissing | wrongType => .wrongType
  | calledOnLoop | stoppedOnLoop => .runtime
  | cancelled => .cancelled
  | emptyBody => .outOfRange
  | lacksOperation => .missingOperation
  | missingKey => .missingKey
  | notTruthValue _ => .badArgument
  | notText _ => .undecodable
  | tooLarge | beyondClock _ => .overflow
  | powerUnchanged _ => .powerTimeout
  | system number _ => .ofErrorNumber number
  | foreign kind _ _ => kind
  | _ => .service

/-- The text of a failure. -/
def message : Failure → String
  | malformedAddress text => "invalid Bluetooth address: " ++ quotedText text
  | notAdapterName name => "not an HCI adapter name: " ++ quotedText name
  | malformedPath path => "invalid object path: " ++ path
  | loopNotRunning loop => "event loop for " ++ loop ++ " is not running"
  | callCancelled loop => "call on " ++ loop ++ " was cancelled by loop shutdown"
  | callUnfinished loop bound =>
    "call on " ++ loop ++ " did not complete within " ++ bound.fixedText 1 ++ " s"
  | boundMissing => "the call has no bound to report"
  | threadStuck loop bound =>
    "event loop thread for " ++ loop ++ " did not exit within " ++ bound.fixedText 1 ++ " s"
  | calledOnLoop => "EventLoopThread.run() called from the loop thread"
  | stoppedOnLoop => "EventLoopThread cannot stop itself from its own thread"
  | cancelled => ""
  | busUnreachable cause => "cannot connect to the system D-Bus: " ++ cause
  | refused context _ detail => context ++ ": " ++ detail
  | noReply context => context ++ ": no reply"
  | notDelivered context cause => context ++ ": " ++ cause
  | emptyBody => "the message body is empty"
  | lacksOperation => "the value lacks the operation"
  | wrongType => "the value has the wrong type"
  | missingKey => "the map lacks the key"
  | notTruthValue .null => "Cannot serialize Python type \"None\""
  | notTruthValue found =>
    "DBus BOOLEAN type \"b\" must be Python type \"bool\", got <class '" ++ found.typeName ++ "'>"
  | tooLarge => "int too large to convert to float"
  | beyondClock duration =>
    if duration.whole?.isSome then "timestamp too large to convert to C _PyTime_t"
    else "timestamp out of range for platform time_t"
  | negativePause => "sleep length must be non-negative"
  | notNumber => "Invalid value NaN (not a number)"
  | connectElapsed context bound =>
    context ++ ": timed out after " ++ bound.fixedText 1 ++ " s"
  | addressMissing path => path ++ " reports no Address"
  | unknownDevice path => path ++ ": Method GetAll doesn't exist"
  | powerUnchanged adapter => "failed to change power of interface " ++ adapter
  | toolMissing => "hcitool not found, classic operations unavailable"
  | toolElapsed verb adapter bound =>
    "hcitool " ++ verb ++ " on " ++ adapter ++ " timed out after " ++ bound.fixedText 0 ++ " s"
  | toolFailed verb adapter cause =>
    "hcitool " ++ verb ++ " on " ++ adapter ++ " failed: " ++ cause
  | toolExited verb adapter status text =>
    "hcitool " ++ verb ++ " on " ++ adapter ++ " exited " ++ intText status ++ ": " ++ text
  | notArguments => "embedded null byte"
  | notText complaint => complaint
  | infoUnsupported => "HCI device info is only available on Linux"
  | infoUnreadable adapter cause =>
    "cannot read HCI device info of " ++ adapter ++ ": " ++ cause
  | cannotCreate name => "cannot create " ++ name
  | cannotClose name => "cannot close " ++ name
  | system number text => "[Errno " ++ intText number ++ "] " ++ text
  | foreign .missingKey text _ => quotedText text
  | foreign _ text _ => text

/-- The name of the error reply behind a failure. -/
def reply : Failure → Option String
  | refused _ name _ => some name
  | unknownDevice _ => some "org.freedesktop.DBus.Error.UnknownObject"
  | foreign kind _ reply => if kind.isA .service then reply else none
  | _ => none

/-- A failure that tells a bound; where the bound cannot be told, that is the failure. -/
def telling (bound : Seconds) (f : Failure) : Failure :=
  if !bound.isNumber then .wrongType
  else if !bound.isRepresentable then .tooLarge
  else f

/-- A failure of a handler's kind is taken by it. -/
def isA (f : Failure) (k : Kind) : Bool := f.kind.isA k

end Failure

end BluetoothControl
