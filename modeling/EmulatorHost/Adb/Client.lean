import EmulatorHost.Adb.Daemon
import EmulatorHost.Adb.Shell
import EmulatorHost.Adb.Sync
import EmulatorHost.Text.Blank
import EmulatorHost.Text.Lines

/-!
# Operations on the device

What a client does on a fresh connection: commands to the daemon, switching the connection to the
only local device, and the services of that device. Every step waits for the status of the step
before it, so nothing is asked of a device that has not been reached.
-/

namespace EmulatorHost.Adb.Client

open Exchange

def request (command : String) : Exchange Unit :=
  sendCommand (Bytes.ofString command)

def execute (command : Bytes) (hasReply : Bool) : Exchange (Option Bytes) := do
  sendCommand command
  if hasReply then return some (← readMessage)
  else return none

/-- Switches the connection to the only local device. -/
def openDevice : Exchange Unit :=
  request "host:transport-local"

def openSync : Exchange Unit := do
  openDevice
  request "sync:"

/-- Restarts the device's side with full rights, and reads the line it answers with. -/
def root : Exchange (Option String) := do
  openDevice
  request "root:"
  readLine

def list (path : String) : Exchange (List Sync.Entry) := do
  openSync
  Sync.list path

def stat (path : String) (followLinks : Bool) : Exchange StatOutcome := do
  openSync
  Sync.stat path followLinks

def openPull (path : String) : Exchange Unit := do
  openSync
  Sync.openPull path

def openPush (path : String) (mode : UInt32) : Exchange Unit := do
  openSync
  Sync.openPush path mode

def openShell (shell : Shell.Request) : Exchange Unit := do
  openDevice
  Shell.open shell

def onlineState : List Char := "device".toList

/-- A line of the device list names its state second. -/
def isOnline (line : List Char) : Bool :=
  (Text.fields line)[1]? == some onlineState

/-- An update of the device list shows a device that can be used. -/
def showsOnline (update : Bytes) : Bool :=
  (Text.lines (Utf8.decodeLossy update).toList).any isOnline

/-- Reads updates of the device list up to one that shows a usable device. Every update takes at
least one byte, so `fuel` above the number of bytes to come is never used up. -/
def awaitOnline : Nat → Exchange Unit
  | 0 => fail (.io (.text "early eof"))
  | fuel + 1 => do
    let update ← readMessage
    if showsOnline update then pure () else awaitOnline fuel

def waitForOnline : Exchange Unit := do
  let connection ← get
  awaitOnline (connection.source.size + 1)

def trackOnline : Exchange Unit := do
  request "host:track-devices"
  waitForOnline

def ranDry {α : Type} : Except Error α → Bool
  | .error (.io cause) => cause == Ending.finished.shortRead
  | _ => false

/-- Waits for a usable device, within a deadline or for ever. A peer that stays silent lets the
deadline pass; without one there is no outcome. -/
def waitForDevice (hasDeadline : Bool) (daemon : Daemon) :
    Option (Except Error Unit) × Daemon :=
  match daemon.use trackOnline with
  | (.error error, daemon) => (some (.error error), daemon)
  | (.ok (peer, outcome), daemon) =>
    if peer.staysSilent && ranDry outcome then
      (if hasDeadline then some (.error .deviceTimeout) else none, daemon)
    else (some outcome, daemon)

end EmulatorHost.Adb.Client
