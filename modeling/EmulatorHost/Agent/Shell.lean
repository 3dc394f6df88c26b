import EmulatorHost.Agent.Files

/-!
# Shells of the device

The call that opens a shell. What the client sends and what the device sends come together in one
queue of events, and whichever side fails first ends the session; the device's exit code ends it,
too, but the end of the client's stream does not.
-/

namespace EmulatorHost.Agent

open Adb

inductive ShellMessage where
  | start (shellType : Int) (command term : Option String)
  | stdin (data : Bytes) (closes : Bool)
  | resize (rows cols width height : UInt32)
  | empty
deriving DecidableEq, Repr, Inhabited

inductive OutputChannel where
  | out
  | err
deriving DecidableEq, Repr, Inhabited

def OutputChannel.number : OutputChannel → Nat
  | out => 0
  | err => 1

inductive ShellItem where
  | output (channel : OutputChannel) (data : Bytes)
  | exit (code : UInt32)
deriving DecidableEq, Repr, Inhabited

inductive SessionEvent where
  -- A message of the client, the end of its stream, or its failure.
  | client (outcome : Except Status (Option ShellMessage))
  -- An event of the device, or its failure.
  | device (outcome : Except Error Shell.Event)
deriving Repr

def shellKind? (shellType : Int) : Option Shell.Kind :=
  if shellType = 0 then some .raw else if shellType = 1 then some .terminal else none

/-- Passes a list of inputs on to the device, up to the first that fails. -/
def writeInputs (writer : Shell.Writer) : List Shell.Input → Except Status Unit × Shell.Writer
  | [] => (.ok (), writer)
  | input :: rest =>
    match writer.write input with
    | (.ok (), writer) => writeInputs writer rest
    | (.error error, writer) => (.error error.status, writer)

/-- What a client's message asks of the device, if it belongs into a session. -/
def ShellMessage.inputs? : ShellMessage → Option (List Shell.Input)
  | stdin data closes => some (.data data :: if closes then [.close] else [])
  | resize rows cols width height => some [.resize rows cols width height]
  | start _ _ _ | empty => none

def session (writer : Shell.Writer) : List SessionEvent → ServerStream ShellItem × Shell.Writer
  | [] => (.ended, writer)
  | .client (.ok (some message)) :: rest =>
    match message.inputs? with
    | none => (.failed unknownRequest, writer)
    | some inputs =>
      match writeInputs writer inputs with
      | (.ok (), writer) => session writer rest
      | (.error status, writer) => (.failed status, writer)
  -- The device may still answer what the client has sent.
  | .client (.ok none) :: rest => session writer rest
  | .client (.error status) :: _ => (.failed status, writer)
  | .device (.ok (.stdout data)) :: rest =>
    let (stream, writer) := session writer rest
    (stream.cons (.output .out data), writer)
  | .device (.ok (.stderr data)) :: rest =>
    let (stream, writer) := session writer rest
    (stream.cons (.output .err data), writer)
  | .device (.ok (.exit code)) :: _ => (⟨[.exit code.toUInt32], none⟩, writer)
  | .device (.ok .exited) :: _ => (.ended, writer)
  | .device (.error error) :: _ => (.failed error.status, writer)

def clientEvents (stream : ClientStream ShellMessage) : List SessionEvent :=
  stream.messages.map (fun message => .client (.ok (some message))) ++
    [.client (match stream.ending with
      | none => .ok none
      | some status => .error status)]

/-- The events that come from the device, up to the one that ends the session. Every event but the
last takes at least one byte, so `fuel` above the number of bytes to come is never used up. -/
def deviceEvents : Nat → Shell.Reader → List SessionEvent
  | 0, _ => []
  | fuel + 1, reader =>
    match reader.receive with
    | (.ok (.stdout data), reader) => .device (.ok (.stdout data)) :: deviceEvents fuel reader
    | (.ok (.stderr data), reader) => .device (.ok (.stderr data)) :: deviceEvents fuel reader
    | (outcome, _) => [.device outcome]

/-- Opens a shell and serves the session, in which the device is heard after the client. -/
def shellSession (request : Shell.Request) (rest : ClientStream ShellMessage) :
    Activity (ServerStream ShellItem) := do
  .ofExchange (Client.openShell request)
  let connection ← get
  let (reader, writer) := Shell.split connection
  let events := clientEvents rest ++ deviceEvents (connection.source.size + 1) reader
  let (stream, writer) := session writer events
  set writer.connection
  return stream

def openShell (plane : ControlPlane) (stream : ClientStream ShellMessage) (daemon : Daemon) :
    Except Status (ServerStream ShellItem) × Daemon :=
  match plane.requireRunning, stream.next with
  | .error status, _ => (.error status, daemon)
  | .ok (), .error status => (.error status, daemon)
  | .ok (), .ok (some (.start shellType command term, rest)) =>
    match shellKind? shellType with
    | none => (.error (invalid "unknown shell type"), daemon)
    | some kind => onDevice plane (shellSession ⟨kind, command, term⟩ rest) daemon
  | .ok (), .ok _ => (.error missingStart, daemon)

end EmulatorHost.Agent
