import EmulatorHost.Adb.Sync
import EmulatorHost.ControlPlane
import EmulatorHost.JsonText.Printer

/-!
# What is printed

The lines for a state, a file record, a directory and a packet. Records can be printed as JSON
instead; a directory entry without a record then shows its error number.
-/

namespace EmulatorHost.CommandLine

open Adb JsonText

/-- The line for a state: its name, and what went wrong if something did. -/
def stateLine (report : ControlPlane.Report) : String :=
  report.phase.wireName ++
    match report.error with
    | some error => "\t" ++ error
    | none => ""

def packetLine (packet : Display.Packet) : String :=
  toString packet.width.toNat ++ "x" ++ toString packet.height.toNat ++ "\tkeyframe=" ++
    (if packet.isKeyframe then "true" else "false") ++ "\t" ++ toString packet.data.length ++
    " bytes"

def modeText (stat : FileStat) : String :=
  Numeral.octal stat.mode.toNat

def statLine (stat : FileStat) : String :=
  "mode=" ++ modeText stat ++ "\tsize=" ++ toString stat.size.toNat ++ "\tuid=" ++
    toString stat.uid.toNat ++ "\tgid=" ++ toString stat.gid.toNat ++ "\tmtime=" ++
    toString stat.mtime.toInt

def statValue (stat : FileStat) : Value :=
  .ofMembers
    [("mode", .ofNat stat.mode.toNat), ("size", .ofNat stat.size.toNat),
      ("uid", .ofNat stat.uid.toNat), ("gid", .ofNat stat.gid.toNat),
      ("mtime", .ofInt stat.mtime.toInt)]

def entryLine (entry : Sync.Entry) : String :=
  match entry.stat with
  | .stat stat =>
    modeText stat ++ "\t" ++ toString stat.size.toNat ++ "\t" ++ toString stat.mtime.toInt ++ "\t" ++
      entry.name
  | .error number => "error " ++ toString number.toNat ++ "\t\t\t" ++ entry.name

def entryValue (entry : Sync.Entry) : Value :=
  .ofMembers
    [("name", .ofText entry.name),
      match entry.stat with
      | .stat stat => ("stat", statValue stat)
      | .error number => ("error", .ofNat number.toNat)]

def statText (json : Bool) (stat : FileStat) : String :=
  if json then (statValue stat).render .pretty else statLine stat

def listLines (json : Bool) (entries : List Sync.Entry) : List String :=
  if json then [(Value.array (entries.map entryValue)).render .pretty]
  else entries.map entryLine

end EmulatorHost.CommandLine
