import BluetoothControl.Seconds

/-!
# Configuration

How patient a controller is, and which transport it scans.  The defaults suit typical hardware.
-/

namespace BluetoothControl

/-- Names of the management service on the system bus. -/
def serviceName : String := "org.bluez"
/-- The interface of adapters. -/
def adapterInterface : String := "org.bluez.Adapter1"
/-- The interface of devices. -/
def deviceInterface : String := "org.bluez.Device1"
/-- The interface that reads and writes properties. -/
def propertiesInterface : String := "org.freedesktop.DBus.Properties"
/-- The interface that lists and announces objects. -/
def objectManagerInterface : String := "org.freedesktop.DBus.ObjectManager"

/-- Recorded for a device that reports no name. -/
def unknownName : String := "unknown"

/-- The adapter that a host is taken to have when none is found. -/
def defaultAdapter : String := "hci0"

/-- The version of the library. -/
def version : String := "0.1.0"

/-- Tuning of a controller. -/
structure Config where
  /-- How often the power state is read back before a change counts as failed. -/
  powerAttempts : Value := .int 5
  /-- The pause between two such reads. -/
  powerDelay : Seconds := .real 0.2
  /-- The transport that a scan is limited to. -/
  transport : Value := .text "le"
  /-- The bound on a single call. -/
  callTimeout : Seconds := .real 10.0
  /-- How long a closing controller waits for its loop thread. -/
  joinTimeout : Seconds := .real 5.0
  deriving Repr, Inhabited

end BluetoothControl
