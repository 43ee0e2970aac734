import BluetoothControl.Answer
import BluetoothControl.Client.Dispatch
import BluetoothControl.Client.Requests

/-!
# The management client: commands

Every operation of a client as data.  `Client.execute` carries one out.
-/

namespace BluetoothControl.Client

/-- An operation of a client. -/
inductive Command
  | getPowered (path : String)
  | setPowered (path : String) (powered : Value)
  | getDiscovering (path : String)
  | setDiscoveryFilter (path : String) (filters : Value)
  | startDiscovery (path : String)
  | stopDiscovery (path : String)
  | listObjects (interface : String)
  | deviceProperties (path : String)
  | getAddress (path : String)
  | getName (path : String)
  | getRssi (path : String)
  | getConnected (path : String)
  | connect (path : String) (timeout : Seconds)
  | disconnect (path : String)
  | subscribe (subscriber : Subscriber)
  | unsubscribe (handle : Value)
  | close
  deriving Repr, Inhabited

/-- A command is carried out. -/
def execute : Command → Action Client Answer
  | .getPowered path => .flag <$> getPowered path
  | .setPowered path powered => (fun _ => .nothing) <$> setPowered path powered
  | .getDiscovering path => .flag <$> getDiscovering path
  | .setDiscoveryFilter path filters => (fun _ => .nothing) <$> setDiscoveryFilter path filters
  | .startDiscovery path => (fun _ => .nothing) <$> startDiscovery path
  | .stopDiscovery path => (fun _ => .nothing) <$> stopDiscovery path
  | .listObjects interface => .paths <$> listObjects interface
  | .deviceProperties path => .props <$> deviceProperties path
  | .getAddress path => (fun a => .name (some a)) <$> getAddress path
  | .getName path => .name <$> getName path
  | .getRssi path => .number <$> getRssi path
  | .getConnected path => .flag <$> getConnected path
  | .connect path timeout => (fun _ => .nothing) <$> connect path timeout
  | .disconnect path => (fun _ => .nothing) <$> disconnect path
  | .subscribe subscriber => (fun handle => .number handle) <$> subscribe subscriber
  | .unsubscribe handle => (fun _ => .nothing) <$> unsubscribe handle
  | .close => (fun _ => .nothing) <$> close

/-- Whether the arguments of an operation have the form that they are to have: object paths, truth
values and maps where such are wanted, and bounds that can be waited for and told, for a client
whose own bound is `own`. -/
def Command.isProper (own : Seconds) : Command → Bool
  | .setPowered path (.bool _) => ObjectPath.isValid path
  | .setPowered _ _ => false
  | .setDiscoveryFilter path (.dict _) => ObjectPath.isValid path
  | .setDiscoveryFilter _ _ => false
  | .connect path timeout =>
    ObjectPath.isValid path && timeout.isTellable && (timeout.add own).isWaitable
  | .getPowered path | .getDiscovering path | .startDiscovery path | .stopDiscovery path
  | .deviceProperties path | .getAddress path | .getName path | .getRssi path
  | .getConnected path | .disconnect path => ObjectPath.isValid path
  | .unsubscribe handle => handle.isKey
  | .listObjects _ | .subscribe _ | .close => true

end BluetoothControl.Client
