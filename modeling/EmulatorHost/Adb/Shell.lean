import EmulatorHost.Adb.Connection

/-!
# Shell sessions

A shell session multiplexes standard input, output, error and the exit code over one connection.
Once open, its two directions are separate: the reader may end while the writer goes on.
-/

namespace EmulatorHost.Adb.Shell

open Exchange

inductive Kind where
  | raw
  | terminal
deriving DecidableEq, Repr, Inhabited

/-- What shell to open. Without a command, or with an empty one, it is interactive. -/
structure Request where
  kind : Kind
  command : Option String
  term : Option String
deriving DecidableEq, Repr, Inhabited

namespace Request

def service (request : Request) : String :=
  "shell,v2" ++
    (match request.term with
      | some term => ",TERM=" ++ term
      | none => "") ++
    (match request.kind with
      | .raw => ",raw"
      | .terminal => ",pty") ++
    ":" ++ request.command.getD ""

end Request

inductive Channel where
  | stdin | stdout | stderr | exit | closeStdin | windowSize
deriving DecidableEq, Repr

namespace Channel

def number : Channel → UInt8
  | stdin => 0
  | stdout => 1
  | stderr => 2
  | exit => 3
  | closeStdin => 4
  | windowSize => 5

end Channel

inductive Event where
  | stdout (data : Bytes)
  | stderr (data : Bytes)
  | exit (code : UInt8)
  -- Every receive after the exit code.
  | exited
deriving DecidableEq, Repr

structure Reader where
  connection : Connection
  hasExited : Bool
deriving DecidableEq, Repr

structure Writer where
  connection : Connection
deriving DecidableEq, Repr

def «open» (request : Request) : Exchange Unit :=
  sendCommand (Bytes.ofString request.service)

def split (connection : Connection) : Reader × Writer :=
  (⟨connection, false⟩, ⟨connection⟩)

/-- Reads the next packet of a session that has not exited. -/
def receivePacket : Exchange Event := do
  let (channel, data) ← readPacket
  if channel == Channel.stdout.number then return .stdout data
  else if channel == Channel.stderr.number then return .stderr data
  else if channel == Channel.exit.number then
    close
    return .exit (data.headD 0)
  else fail (.protocol ("shell channel " ++ toString channel.toNat))

def Reader.receive (reader : Reader) : Except Error Event × Reader :=
  if reader.hasExited then (.ok .exited, reader)
  else
    match receivePacket.on reader.connection with
    | (.ok (.exit code), connection) => (.ok (.exit code), ⟨connection, true⟩)
    | (outcome, connection) => (outcome, ⟨connection, false⟩)

inductive Input where
  | data (bytes : Bytes)
  | close
  | resize (rows cols width height : UInt32)
deriving DecidableEq, Repr

/-- The text that announces a window size. -/
def windowText (rows cols width height : UInt32) : String :=
  toString rows.toNat ++ "x" ++ toString cols.toNat ++ "," ++ toString width.toNat ++ "x" ++
    toString height.toNat

/-- The packet that carries a client's wish; data that is empty needs none. -/
def Input.packet? : Input → Option (Channel × Bytes)
  | data [] => none
  | data bytes => some (.stdin, bytes)
  | close => some (.closeStdin, [])
  | resize rows cols width height =>
    some (.windowSize, Bytes.ofString (windowText rows cols width height))

def Writer.write (input : Input) (writer : Writer) : Except Error Unit × Writer :=
  match input.packet? with
  | none => (.ok (), writer)
  | some (channel, payload) =>
    let (outcome, connection) := (writePacket channel.number payload).on writer.connection
    (outcome, ⟨connection⟩)

end EmulatorHost.Adb.Shell
