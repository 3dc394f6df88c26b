import EmulatorHost.Adb.Client
import EmulatorHost.Agent.Stream
import EmulatorHost.ControlPlane

/-!
# Files of the device

The calls that list, stat, pull and push files of the device. All of them need a running emulator,
and nothing is dialled without one. A push commits only when the client's stream has come to its end
message; a pull marks its last item.
-/

namespace EmulatorHost.Agent

open Adb

/-- Dials a connection for a call, if the emulator runs. -/
def onDevice {α : Type} (plane : ControlPlane) (activity : Activity α) (daemon : Daemon) :
    Except Status α × Daemon :=
  match plane.requireRunning with
  | .error status => (.error status, daemon)
  | .ok () =>
    match daemon.use activity with
    | (.error error, daemon) => (.error error.status, daemon)
    | (.ok (_, outcome), daemon) => (outcome, daemon)

def listDirectory (plane : ControlPlane) (path : String) :
    Daemon → Except Status (List Sync.Entry) × Daemon :=
  onDevice plane (.ofExchange (Client.list path))

def statFile (plane : ControlPlane) (path : String) (followLinks : Bool) :
    Daemon → Except Status StatOutcome × Daemon :=
  onDevice plane (.ofExchange (Client.stat path followLinks))

structure PullItem where
  data : Bytes
  isLast : Bool
deriving DecidableEq, Repr, Inhabited

/-- The items of an opened pull. Every chunk takes at least one byte, so `fuel` above the number of
bytes to come is never used up. -/
def pullItems : Nat → StateM Connection (ServerStream PullItem)
  | 0 => return .failed (Error.io Ending.finished.shortRead).status
  | fuel + 1 => do
    match ← Sync.receive.run with
    | .ok (some data) => return (← pullItems fuel).cons ⟨data, false⟩
    | .ok none => return ⟨[⟨[], true⟩], none⟩
    | .error error => return .failed error.status

def pullSession (path : String) : Activity (ServerStream PullItem) := do
  .ofExchange (Client.openPull path)
  let connection ← get
  pullItems (connection.source.size + 1)

def pullFile (plane : ControlPlane) (path : String) :
    Daemon → Except Status (ServerStream PullItem) × Daemon :=
  onDevice plane (pullSession path)

inductive PushMessage where
  | start (path : String) (mode : UInt32)
  | data (bytes : Bytes)
  | finish (mtime : UInt32)
  | empty
deriving DecidableEq, Repr, Inhabited

def prematureEnd : Status :=
  ⟨.aborted, "push stream ended before completion"⟩

def pushMessages (ending : Option Status) : List PushMessage → Activity Unit
  | [] => throw (ending.getD prematureEnd)
  | .data bytes :: rest => do
    .ofExchange (Sync.sendChunk bytes)
    pushMessages ending rest
  | .finish mtime :: _ => .ofExchange (Sync.finishPush mtime)
  | _ :: _ => throw unknownRequest

def pushSession (path : String) (mode : UInt32) (rest : ClientStream PushMessage) :
    Activity Unit := do
  .ofExchange (Client.openPush path mode)
  pushMessages rest.ending rest.messages

def pushFile (plane : ControlPlane) (stream : ClientStream PushMessage) (daemon : Daemon) :
    Except Status Unit × Daemon :=
  match plane.requireRunning, stream.next with
  | .error status, _ => (.error status, daemon)
  | .ok (), .error status => (.error status, daemon)
  | .ok (), .ok (some (.start path mode, rest)) =>
    onDevice plane (pushSession path mode rest) daemon
  | .ok (), .ok _ => (.error missingStart, daemon)

end EmulatorHost.Agent
