import BluetoothControl.Event
import BluetoothControl.Procedure

/-!
# The host

What a controller's host offers besides the message bus: its platform, a raw adapter socket with a
device information request, an inquiry tool, and two lists of the adapters that it has.  How each
will behave is data, so that a run is a function of it.
-/

namespace BluetoothControl

/-- How a run of the inquiry tool ends. -/
inductive ToolRun
  /-- It exits. -/
  | exited (output diagnostics : String) (status : Int)
  /-- It exits, and what it printed is no text. -/
  | garbled (complaint : String)
  /-- It takes too long. -/
  | overran
  /-- It cannot be run. -/
  | failed (number : Int) (text : String)
  deriving Repr, Inhabited

/-- Whether all that is printed is text. -/
def ToolRun.isText : ToolRun → Bool
  | garbled _ => false
  | _ => true

/-- Whether a text can be handed to a program as an argument. -/
def isArgument (text : String) : Bool := !text.toList.contains '\x00'

/-- A source of adapter names. -/
inductive Source
  /-- It lists entries; one without a usable name is `none`. -/
  | lists (names : List (Option String))
  /-- It fails, after it has listed entries. -/
  | fails (listed : List (Option String)) (failure : Failure)
  deriving Repr, Inhabited

/-- A host. -/
structure Host where
  /-- The platform has adapter sockets. -/
  isLinux : Bool := true
  /-- The platform has device requests. -/
  hasRequests : Bool := true
  /-- The error of opening an adapter socket. -/
  socketError : Option (Int × String) := none
  /-- The error of a device information request. -/
  requestError : Option (Int × String) := none
  /-- The device information that a request copies out. -/
  record : List UInt8 := []
  /-- Where the inquiry tool is installed. -/
  toolPath : Option String := some "/usr/bin/hcitool"
  /-- How the next runs of the inquiry tool end; later ones exit with nothing to say. -/
  toolRuns : List ToolRun := []
  /-- Something stands in for the inquiry tool that can be asked anything. -/
  standsIn : Bool := false
  /-- The adapters that the kernel lists. -/
  kernelAdapters : Source := .lists []
  /-- The adapters that the device tree lists. -/
  treeAdapters : Source := .lists []
  /-- What was observed. -/
  log : List Event := []
  deriving Repr, Inhabited

/-- A step of a host. -/
abbrev HostAction := Procedure Failure Host

namespace Host

/-- Whether the inquiry tool can be given these arguments. -/
def takes (h : Host) (arguments : List String) : Bool := h.standsIn || arguments.all isArgument

/-- Something is observed. -/
def observe (e : Event) : HostAction Unit := modify fun h => { h with log := h.log ++ [e] }

end Host

end BluetoothControl
