import BluetoothControl.Client.Command
import BluetoothControl.Client.Run
import BluetoothControl.Proofs.Client.Effect
import BluetoothControl.Proofs.Procedure
import BluetoothControl.Registry.Fleet
import BluetoothControl.Registry.Mockup
import BluetoothControl.Scenario
import BluetoothControl.Simulation
import BluetoothControl.Proofs.Client.Wiring
import BluetoothControl.Proofs.Client.Attach
import BluetoothControl.Proofs.Client.Sound
import BluetoothControl.Proofs.Client.Subscription
import BluetoothControl.Proofs.Client.Notification
import BluetoothControl.Bus.Legible
import BluetoothControl.Controller.Run
import BluetoothControl.Proofs.Truthful
import BluetoothControl.Proofs.Client.Frame
import BluetoothControl.Proofs.Client.Contract
import BluetoothControl.Proofs.Client.Release
import BluetoothControl.Proofs.Controller.Keeps
import BluetoothControl.Proofs.Controller.Close
import BluetoothControl.Controller.Answers
import BluetoothControl.Proofs.DevicePath
import BluetoothControl.Proofs.Client.Reading
import BluetoothControl.Proofs.Client.Asking
import BluetoothControl.History
import BluetoothControl.Proofs.Controller.Order
import BluetoothControl.Proofs.Controller.Contract
import BluetoothControl.Proofs.Controller.Hearing
import BluetoothControl.Proofs.Controller.Discovery
import BluetoothControl.Proofs.Controller.Found
import BluetoothControl.Proofs.Controller.Degradation
import BluetoothControl.Proofs.Controller.Dormant
import BluetoothControl.Proofs.Controller.Discipline
import BluetoothControl.Proofs.Client.Single
import BluetoothControl.Proofs.Client.Enrolment
import BluetoothControl.Proofs.Client.Dispatch
import BluetoothControl.Proofs.Client.Listing
import BluetoothControl.Proofs.Controller.Withdrawal
import BluetoothControl.Proofs.Controller.Blind
import BluetoothControl.Proofs.Controller.Isolation
import BluetoothControl.Proofs.Controller.Power
import BluetoothControl.Proofs.EventLoop.Ending
import BluetoothControl.Proofs.EventLoop.Threads
import BluetoothControl.Proofs.Registry.Uniqueness
import BluetoothControl.Proofs.Spelling
import BluetoothControl.Proofs.Controller.Canonical
import BluetoothControl.Proofs.Controller.Connect
import BluetoothControl.Proofs.EventLoop.Reporting
import BluetoothControl.Proofs.Ownership
import BluetoothControl.Proofs.ScanReport
import BluetoothControl.Host.DeviceRecord
import BluetoothControl.Proofs.DeviceRequest
import BluetoothControl.Proofs.Utf8
import BluetoothControl.Proofs.DeviceInfo
import BluetoothControl.Proofs.Classic
import BluetoothControl.Proofs.Enumeration
import BluetoothControl.Proofs.ScanReport.Composition
