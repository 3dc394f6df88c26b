import EmulatorHost.Adb.Bootstrap
import EmulatorHost.Adb.Client
import EmulatorHost.Adb.Daemon
import EmulatorHost.Adb.Shell
import EmulatorHost.Adb.Sync
import EmulatorHost.Avd
import EmulatorHost.Broadcast.Schedule
import EmulatorHost.Bytes
import EmulatorHost.Config.File
import EmulatorHost.Console
import EmulatorHost.ControlPlane.Rehearsal
import EmulatorHost.Display.Processor
import EmulatorHost.Emulator.ErrorBlock
import EmulatorHost.Emulator.ExitReport
import EmulatorHost.Emulator.Settings
import EmulatorHost.Emulator.Supervisor
import EmulatorHost.Main
import EmulatorHost.Path
import EmulatorHost.SocketAddress
import EmulatorHost.Status.Causes
import EmulatorHost.SysLog
import EmulatorHost.SystemError
import EmulatorHost.Text
import EmulatorHost.Proofs.ControlPlane.History
import EmulatorHost.Proofs.ControlPlane.Milestone
import EmulatorHost.Proofs.ControlPlane.Consistency
import EmulatorHost.Proofs.ControlPlane.Life
import EmulatorHost.Proofs.ControlPlane.Succession
import EmulatorHost.Proofs.ControlPlane.Blanking
import EmulatorHost.Proofs.ControlPlane.Isolation
import EmulatorHost.Proofs.Broadcast.Turn
import EmulatorHost.Proofs.Broadcast.History
import EmulatorHost.Proofs.Broadcast.Wakeup
import EmulatorHost.Proofs.Broadcast.WayOut
import EmulatorHost.Proofs.Broadcast.Waits
import EmulatorHost.Proofs.Broadcast.Calls
import EmulatorHost.Proofs.Broadcast.Quiet
import EmulatorHost.Proofs.Broadcast.Consumer
import EmulatorHost.Proofs.Adb.Discipline
import EmulatorHost.Proofs.Adb.Operation
import EmulatorHost.Proofs.Adb.Room
import EmulatorHost.Proofs.Adb.Upload
import EmulatorHost.Proofs.Adb.Push
import EmulatorHost.Proofs.Adb.Framing
import EmulatorHost.Proofs.Adb.LengthPrefix
import EmulatorHost.Proofs.Adb.Reading
import EmulatorHost.Proofs.Adb.Refusal
import EmulatorHost.Proofs.Adb.Pull
import EmulatorHost.Proofs.Adb.Listing
import EmulatorHost.Proofs.Adb.Trade
import EmulatorHost.Proofs.Adb.Handshake
import EmulatorHost.Proofs.Adb.Reply
import EmulatorHost.Proofs.Adb.Commit
import EmulatorHost.Proofs.Adb.Messages
import EmulatorHost.Proofs.Adb.Packets
import EmulatorHost.Proofs.Adb.Services
import EmulatorHost.Proofs.Adb.ShellService
import EmulatorHost.Proofs.Adb.ShellInput
import EmulatorHost.Proofs.Adb.ShellOutput
import EmulatorHost.Proofs.Display.Feeding
import EmulatorHost.Proofs.Display.Keyframes
import EmulatorHost.Proofs.Display.Starts
import EmulatorHost.Proofs.Display.Engine
import EmulatorHost.Proofs.Agent.Admission
import EmulatorHost.Proofs.Agent.Commitment
import EmulatorHost.Proofs.Sequence
import EmulatorHost.Proofs.Agent.DeviceCalls
import EmulatorHost.Proofs.Agent.Settling
import EmulatorHost.Proofs.Agent.Following
import EmulatorHost.Proofs.Agent.StateStream
import EmulatorHost.Proofs.Agent.Producer
import EmulatorHost.Proofs.Agent.DisplayStream
import EmulatorHost.Proofs.Agent.DisplayProducer
import EmulatorHost.Proofs.Agent.Capture
import EmulatorHost.Proofs.Agent.DisplaySize
import EmulatorHost.Proofs.Agent.ShellSession
import EmulatorHost.Proofs.Files
import EmulatorHost.Proofs.SysLog
import EmulatorHost.Proofs.CommandLine.Pull
import EmulatorHost.Proofs.CommandLine.Push
import EmulatorHost.Proofs.Text.Lines
import EmulatorHost.Proofs.SysLog.Connection
import EmulatorHost.Proofs.Emulator.ErrorBlock
import EmulatorHost.Proofs.Emulator.Output
import EmulatorHost.Proofs.CommandLine.PullMark
import EmulatorHost.Proofs.CommandLine.ShellExit
import EmulatorHost.Proofs.Adb.FileRecord
import EmulatorHost.Proofs.Text.Fields
import EmulatorHost.Proofs.Adb.DeviceList
import EmulatorHost.Proofs.Adb.KeyProtection
import EmulatorHost.Proofs.Path
import EmulatorHost.Proofs.Config.Environment
import EmulatorHost.Proofs.Config.Home
import EmulatorHost.Proofs.Text.Blank
import EmulatorHost.Proofs.Properties
import EmulatorHost.Proofs.Adb.LineStream
