import EmulatorHost.Adb.Error
import EmulatorHost.Adb.Stream
import EmulatorHost.Text.Utf8
import EmulatorHost.Text.Quoted
import EmulatorHost.Text.Numeral

/-!
# Connections to the daemon

Requests are four lower-case hexadecimal digits of a length and then the payload; the daemon
answers with a four-byte status. Shell sessions use packets of a channel number, a little-endian
length and the payload. A failed read or write closes the connection, and a closed connection
neither reads nor writes.
-/

namespace EmulatorHost.Adb

structure Connection where
  source : Source
  sink : Sink
  isOpen : Bool
deriving DecidableEq, Repr, Inhabited

abbrev Exchange := ExceptT Error (StateM Connection)

namespace Connection

def ofPeer (source : Source) (sink : Sink) : Connection :=
  ⟨source, sink, true⟩

end Connection

namespace Exchange

def on {α : Type} (operation : Exchange α) (connection : Connection) :
    Except Error α × Connection :=
  operation connection

/-- The longest payload that four hexadecimal digits can announce. -/
def maxMessageLength : Nat := 0xffff

def maxPacketLength : Nat := 1024 * 1024

def close : Exchange Unit :=
  modify fun connection => { connection with isOpen := false }

/-- Closes the connection and fails. -/
def fail {α : Type} (error : Error) : Exchange α := do
  close
  throw error

def writeRaw (data : Bytes) : Exchange Unit := do
  let connection ← get
  if connection.isOpen then
    match connection.sink.write data with
    | (.ok (), sink) => set { connection with sink }
    | (.error cause, sink) =>
      set { connection with sink, isOpen := false }
      throw (.io cause)
  else throw .closed

def readRaw (count : Nat) : Exchange Bytes := do
  let connection ← get
  if connection.isOpen then
    match connection.source.readExact count with
    | (.ok block, source) =>
      set { connection with source }
      pure block
    | (.error cause, source) =>
      set { connection with source, isOpen := false }
      throw (.io cause)
  else throw .closed

def hexDigit (n : Nat) : UInt8 :=
  UInt8.ofNat (if n < 10 then 48 + n else 87 + n)

def lengthDigits (length : Nat) : Bytes :=
  [hexDigit (length / 4096 % 16), hexDigit (length / 256 % 16), hexDigit (length / 16 % 16),
    hexDigit (length % 16)]

/-- A request frame: the length in hexadecimal and the payload. -/
def messageFrame (payload : Bytes) : Bytes :=
  lengthDigits payload.length ++ payload

def packetFrame (channel : UInt8) (payload : Bytes) : Bytes :=
  channel :: Bytes.leBytes 4 payload.length ++ payload

def writeMessage (payload : Bytes) : Exchange Unit :=
  if payload.length ≤ maxMessageLength then writeRaw (messageFrame payload)
  else
    fail (.framing ("message of " ++ toString payload.length ++
      " bytes does not fit a 4 digit length"))

def writePacket (channel : UInt8) (payload : Bytes) : Exchange Unit :=
  if payload.length < Bytes.limit 4 then writeRaw (packetFrame channel payload)
  else fail (.framing ("blob of " ++ toString payload.length ++ " bytes is too large"))

/-- Reads a block whose length the peer announced, if it is within the limit. -/
def readBlock (length limit : Nat) : Exchange Bytes :=
  if length ≤ limit then readRaw length
  else
    fail (.protocol ("peer announced " ++ toString length ++ " bytes, limit is " ++
      toString limit))

def readWord : Exchange UInt32 :=
  return Bytes.toWord32 (← readRaw 4)

def readStatus : Exchange Bytes :=
  readRaw 4

def announcedLength? (digits : Bytes) : Option Nat :=
  Numeral.unsigned? 16 (digits.map fun byte => Char.ofNat byte.toNat)

def readMessage : Exchange Bytes := do
  let digits ← readRaw 4
  match announcedLength? digits with
  | some length => readBlock length maxMessageLength
  | none => fail (.framing ("invalid length prefix " ++ Text.quoted (Utf8.decodeLossy digits)))

def readPacket : Exchange (UInt8 × Bytes) := do
  let header ← readRaw 5
  let payload ← readBlock (Bytes.leValue header.tail) maxPacketLength
  return (header.headD 0, payload)

inductive LineEnd where
  | feed
  -- At the end of the peer's direction.
  | finished
  -- At a failing read.
  | failed (cause : SystemError)
deriving DecidableEq, Repr

/-- Takes bytes up to a line feed, on top of those taken before, which are given last first; with
the line feed come the bytes after it. -/
def takeToFeed (taken : Bytes) : Bytes → Bytes × Option Bytes
  | [] => (taken, none)
  | byte :: rest => if byte == 10 then (taken, some rest) else takeToFeed (byte :: taken) rest

/-- Takes a line off the segments, on top of the bytes taken before, which are given last first. -/
def takeLine (ending : Ending) (taken : Bytes) : List Bytes → Bytes × LineEnd × List Bytes
  | [] =>
    match ending with
    | .finished => (taken.reverse, .finished, [])
    | .failed cause => (taken.reverse, .failed cause, [])
  | segment :: rest =>
    match takeToFeed taken segment with
    | (line, some after) => (line.reverse, .feed, after :: rest)
    | (line, none) => takeLine ending line rest

/-- A line as text: one carriage return at its end is dropped, and what is not UTF-8 is replaced. -/
def lineText (line : Bytes) : String :=
  Utf8.decodeLossy (if line.getLast? == some 13 then line.dropLast else line)

/-- Reads a line. An unterminated last line counts; after it, and when no byte of a line arrives,
the connection is closed. -/
def readLine : Exchange (Option String) := do
  let connection ← get
  if connection.isOpen then
    let (line, stop, segments) := takeLine connection.source.ending [] connection.source.segments
    let source := { connection.source with segments }
    match stop with
    | .feed =>
      set { connection with source }
      pure (some (lineText line))
    | .finished =>
      set { connection with source, isOpen := false }
      pure (if line.isEmpty then none else some (lineText line))
    | .failed cause =>
      set { connection with source, isOpen := false }
      throw (.io cause)
  else throw .closed

/-- The status of an accepted request, `OKAY`. -/
def statusOkay : Bytes := [0x4f, 0x4b, 0x41, 0x59]

/-- The status of a refused request, `FAIL`. -/
def statusFail : Bytes := [0x46, 0x41, 0x49, 0x4c]

/-- Sends a request and reads its status. A refusal carries the daemon's message. -/
def sendCommand (command : Bytes) : Exchange Unit := do
  writeMessage command
  let status ← readStatus
  if status == statusOkay then pure ()
  else
    -- A status that is neither is followed by a message, too.
    let reply ← readMessage
    if status == statusFail then fail (.server (Utf8.decodeLossy reply))
    else fail (.protocol ("status " ++ Text.quoted (Utf8.decodeLossy status)))

end Exchange

end EmulatorHost.Adb
