import EmulatorHost.Adb.Connection
import EmulatorHost.Adb.FileStat

/-!
# The file service

Listing, stat, pull and push over a connection that has been switched to the file service. Every
request and every record begins with a four-letter tag, followed by a little-endian number.
-/

namespace EmulatorHost.Adb

inductive Tag where
  | list | entry | done | stat | linkStat | receive | send | data | fail | okay
deriving DecidableEq, Repr

namespace Tag

def bytes : Tag → Bytes
  | list => [0x4c, 0x49, 0x53, 0x32]
  | entry => [0x44, 0x4e, 0x54, 0x32]
  | done => [0x44, 0x4f, 0x4e, 0x45]
  | stat => [0x53, 0x54, 0x41, 0x32]
  | linkStat => [0x4c, 0x53, 0x54, 0x32]
  | receive => [0x52, 0x43, 0x56, 0x32]
  | send => [0x53, 0x4e, 0x44, 0x32]
  | data => [0x44, 0x41, 0x54, 0x41]
  | fail => [0x46, 0x41, 0x49, 0x4c]
  | okay => [0x4f, 0x4b, 0x41, 0x59]

end Tag

namespace Sync

open Exchange

def maxData : Nat := 64 * 1024

def maxNameLength : Nat := 1024

def maxFailLength : Nat := maxData

structure Entry where
  name : String
  stat : StatOutcome
deriving DecidableEq, Repr

def pathRequest (tag : Tag) (path : Bytes) : Bytes :=
  tag.bytes ++ Bytes.leBytes 4 path.length ++ path

/-- Makes a request for a path; the length field holds 32 bits. -/
def writePathRequest (tag : Tag) (path : String) (extra : Bytes) : Exchange Unit :=
  let bytes := Bytes.ofString path
  if bytes.length < Bytes.limit 4 then writeRaw (pathRequest tag bytes ++ extra)
  else throw (.framing ("path of " ++ toString bytes.length ++ " bytes is too long"))

/-- Refuses a record whose tag does not belong where it stands. -/
def unexpected {α : Type} (tag : Bytes) (place : String) : Exchange α :=
  fail (.protocol (Utf8.decodeLossy tag ++ " " ++ place))

/-- Reads the text of a failure and closes the connection. -/
def readFailure (length : Nat) : Exchange String := do
  let text ← readBlock length maxFailLength
  close
  return Utf8.decodeLossy text

/-- The length of the fixed part of a directory record: tag, error number, file record and name
length. -/
def entryLength : Nat := FileStat.recordLength + 12

/-- A directory record as the device writes it. -/
def encodeEntry (number : UInt32) (stat : FileStat) (name : Bytes) : Bytes :=
  Tag.entry.bytes ++ Bytes.ofWord32 number ++ stat.encode ++ Bytes.leBytes 4 name.length ++ name

/-- Takes what follows the fixed part of a directory record; the closing record is no entry. -/
def readEntryBody (record : Bytes) : Exchange (Option Entry) := do
  let tag := record.take 4
  let number := Bytes.toWord32 ((record.drop 4).take 4)
  let stat := FileStat.parse ((record.drop 8).take FileStat.recordLength)
  let length := Bytes.leValue (record.drop (8 + FileStat.recordLength))
  -- The closing record is as long as the others; its fields do not count.
  if tag == Tag.done.bytes then
    return none
  else if tag == Tag.entry.bytes then
    let name ← readBlock length maxNameLength
    return some ⟨Utf8.decodeLossy name, StatOutcome.ofParts number stat⟩
  else unexpected tag "while listing"

def readEntry : Exchange (Option Entry) := do
  readEntryBody (← readRaw entryLength)

/-- Reads directory records up to the closing one. Every record takes at least one byte, so `fuel`
above the number of bytes to come is never used up. -/
def readEntries : Nat → Exchange (List Entry)
  | 0 => fail (.io (.text "early eof"))
  | fuel + 1 => do
    match ← readEntry with
    | none => return []
    | some entry => return entry :: (← readEntries fuel)

def list (path : String) : Exchange (List Entry) := do
  writePathRequest .list path []
  let connection ← get
  readEntries (connection.source.size + 1)

def stat (path : String) (followLinks : Bool) : Exchange StatOutcome := do
  writePathRequest (if followLinks then .stat else .linkStat) path []
  let reply ← readRaw (FileStat.recordLength + 8)
  let tag := reply.take 4
  let number := Bytes.toWord32 ((reply.drop 4).take 4)
  if tag == Tag.fail.bytes then
    let text ← readFailure number.toNat
    throw (.device text)
  if tag != Tag.stat.bytes && tag != Tag.linkStat.bytes then unexpected tag "in stat reply"
  return StatOutcome.ofParts number (FileStat.parse (reply.drop 8))

def openPull (path : String) : Exchange Unit :=
  writePathRequest .receive path (Tag.receive.bytes ++ Bytes.ofWord32 0)

def receiveBody (tag : Bytes) (length : Nat) : Exchange (Option Bytes) := do
  if tag == Tag.data.bytes then
    return some (← readBlock length maxData)
  else if tag == Tag.done.bytes then
    close
    return none
  else if tag == Tag.fail.bytes then
    let text ← readFailure length
    throw (.device text)
  else unexpected tag "during pull"

/-- The next chunk of a pull; nothing once the transfer is complete. -/
def receive : Exchange (Option Bytes) := do
  let header ← readRaw 8
  receiveBody (header.take 4) (Bytes.leValue (header.drop 4))

def dataFrame (chunk : Bytes) : Bytes :=
  Tag.data.bytes ++ Bytes.leBytes 4 chunk.length ++ chunk

def doneFrame (mtime : UInt32) : Bytes :=
  Tag.done.bytes ++ Bytes.ofWord32 mtime

def openPush (path : String) (mode : UInt32) : Exchange Unit :=
  writePathRequest .send path (Tag.send.bytes ++ Bytes.ofWord32 mode ++ Bytes.ofWord32 0)

/-- Sends one chunk of a push. A chunk that no frame can carry ends the transfer. -/
def sendChunk (chunk : Bytes) : Exchange Unit :=
  if chunk.length ≤ maxData then writeRaw (dataFrame chunk)
  else fail (.chunkTooLarge chunk.length maxData)

def finishPush (mtime : UInt32) : Exchange Unit := do
  writeRaw (doneFrame mtime)
  let header ← readRaw 8
  let tag := header.take 4
  if tag == Tag.okay.bytes then close
  else if tag == Tag.fail.bytes then
    let text ← readFailure (Bytes.leValue (header.drop 4))
    throw (.device text)
  else unexpected tag "in push receipt"

end Sync

end EmulatorHost.Adb
