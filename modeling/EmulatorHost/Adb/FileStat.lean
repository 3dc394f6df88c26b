import EmulatorHost.Bytes

/-!
# File records

The 64-byte record that describes a file on the device: ten little-endian fields that lie side by
side. `parse` and `encode` are inverse on 64-byte blocks.
-/

namespace EmulatorHost.Adb

structure FileStat where
  dev : UInt64
  ino : UInt64
  mode : UInt32
  nlink : UInt32
  uid : UInt32
  gid : UInt32
  size : UInt64
  atime : Int64
  mtime : Int64
  ctime : Int64
deriving DecidableEq, Repr, Inhabited

namespace FileStat

def recordLength : Nat := 64

def wordAt (offset : Nat) (record : Bytes) : UInt32 :=
  Bytes.toWord32 ((record.drop offset).take 4)

def longAt (offset : Nat) (record : Bytes) : UInt64 :=
  Bytes.toWord64 ((record.drop offset).take 8)

def parse (record : Bytes) : FileStat where
  dev := longAt 0 record
  ino := longAt 8 record
  mode := wordAt 16 record
  nlink := wordAt 20 record
  uid := wordAt 24 record
  gid := wordAt 28 record
  size := longAt 32 record
  atime := (longAt 40 record).toInt64
  mtime := (longAt 48 record).toInt64
  ctime := (longAt 56 record).toInt64

def encode (stat : FileStat) : Bytes :=
  Bytes.ofWord64 stat.dev ++ Bytes.ofWord64 stat.ino ++ Bytes.ofWord32 stat.mode ++
    Bytes.ofWord32 stat.nlink ++ Bytes.ofWord32 stat.uid ++ Bytes.ofWord32 stat.gid ++
    Bytes.ofWord64 stat.size ++ Bytes.ofWord64 stat.atime.toUInt64 ++
    Bytes.ofWord64 stat.mtime.toUInt64 ++ Bytes.ofWord64 stat.ctime.toUInt64

@[simp] theorem length_encode (stat : FileStat) : (encode stat).length = recordLength := by
  simp [encode, recordLength]

end FileStat

inductive StatOutcome where
  | stat (record : FileStat)
  | error (number : UInt32)
deriving DecidableEq, Repr, Inhabited

namespace StatOutcome

/-- A record counts only if the error number beside it is zero. -/
def ofParts (number : UInt32) (record : FileStat) : StatOutcome :=
  if number == 0 then stat record else error number

end StatOutcome

end EmulatorHost.Adb
