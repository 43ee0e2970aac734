import BluetoothControl.Host.Adapters
import BluetoothControl.Host.DeviceInfo
import BluetoothControl.Host.ScanReport

/-!
# Classic operations

What a controller does without the management service: read an adapter's device information through
a raw socket, and run the inquiry tool to scan for classic devices or to ask one for its name.
-/

namespace BluetoothControl.Classic

open BluetoothControl.Text

/-! ## Device information -/

/-- The address family of adapter sockets. -/
def socketFamily : Nat := 31
/-- The kind of adapter sockets. -/
def socketKind : Nat := 3
/-- The protocol of adapter sockets. -/
def socketProtocol : Nat := 1
/-- The number of an open adapter socket. -/
def socketNumber : Nat := 7
/-- The request for device information. -/
def infoRequest : Nat := 0x800448D3

/-- The device number in a request: the low sixteen bits of an adapter's number. -/
def deviceNumber (n : Int) : Nat := (n % 65536).toNat

/-- The device information of an adapter. -/
def info (adapter : String) : HostAction DeviceInfo := do
  let h ← get
  if !h.isLinux || !h.hasRequests then throw .infoUnsupported
  let n ← Procedure.ofExcept (Adapters.number adapter)
  let unreadable := fun (e : Int × String) =>
    Failure.infoUnreadable adapter (Failure.system e.1 e.2).message
  Host.observe (.socketOpened socketFamily socketKind socketProtocol)
  match h.socketError with
  | some e => throw (unreadable e)
  | none => pure ()
  Host.observe (.infoRequested socketNumber infoRequest (deviceNumber n))
  Host.observe .socketClosed
  match h.requestError with
  | some e => throw (unreadable e)
  | none => return DeviceInfo.ofBytes adapter h.record

/-! ## Inquiry -/

/-- The name of the inquiry tool. -/
def toolName : String := "hcitool"
/-- The bound on a scan. -/
def scanBound : Seconds := .real 30.0
/-- The bound on a name request. -/
def nameBound : Seconds := .real 15.0

/-- The next run of the inquiry tool. -/
def nextRun : HostAction ToolRun :=
  modifyGet fun h =>
    match h.toolRuns with
    | [] => (.exited "" "" 0, h)
    | r :: rest => (r, { h with toolRuns := rest })

/-- What the inquiry tool prints for a verb with its arguments. -/
def runTool (adapter verb : String) (args : List String) (bound : Seconds) :
    HostAction String := do
  Host.observe (.toolSought toolName)
  let h ← get
  match h.toolPath with
  | none => throw .toolMissing
  | some path =>
    if !h.takes ([adapter, verb] ++ args) then throw .notArguments
    Host.observe (.toolRun ([path, "-i", adapter, verb] ++ args) bound)
    match ← nextRun with
    | .garbled complaint => throw (.notText complaint)
    | .overran => throw (.toolElapsed verb adapter bound)
    | .failed number text =>
      throw (.toolFailed verb adapter (Failure.system number text).message)
    | .exited output diagnostics status =>
      if status ≠ 0 then throw (.toolExited verb adapter status (trimText diagnostics))
      return output

/-- The classic devices in range. -/
def scan (adapter : String) : HostAction (Roster String) := do
  let report ← runTool adapter "scan" [] scanBound
  return ScanReport.parse report

/-- Whether a classic device answers a name request. -/
def detect (adapter address : String) : HostAction Bool := do
  let address ← Procedure.ofExcept (Address.normalize address)
  let name ← runTool adapter "name" [address] nameBound
  return !(trim name.toList).isEmpty

end BluetoothControl.Classic
