import EmulatorHost.Adb.Error
import EmulatorHost.Files
import EmulatorHost.ProgramStart
import EmulatorHost.WaitStatus

/-!
# Starting the daemon

The daemon is started through its binary: a key is generated first, its file is closed to everyone
but the owner, and only then the daemon is started.
-/

namespace EmulatorHost.Adb.Bootstrap

structure Output where
  status : WaitStatus
  stdout : Bytes
  stderr : Bytes
deriving DecidableEq, Repr, Inhabited

/-- What the binary does when it runs: given its arguments and the files, it writes, ends, and
leaves the files as it wants them. -/
abbrev Binary := List String → Files → Output × Files

/-- The files and the arguments of the runs so far, the latest last. -/
structure Session where
  files : Files
  calls : List (List String)
deriving DecidableEq, Repr

abbrev Step := ExceptT Error (StateM Session)

/-- Runs the binary at `path`, if it can be started; it must end with success. -/
def call (binary : Binary) (path : String) (args : List String) : Step Unit := do
  let session ← get
  match (ProgramStart.mk path args []).check session.files with
  | .error cause => if cause == .notFound then throw (.notFound path) else throw (.io cause)
  | .ok () =>
    let (output, files) := binary args session.files
    set { session with files, calls := session.calls ++ [args] }
    if output.status.isSuccess then pure ()
    else
      throw (.exit (args.headD "")
        (match output.status.code? with
          | some code => code
          | none => -1)
        (Utf8.decodeLossy output.stdout) (Utf8.decodeLossy output.stderr))

/-- Changes the files, also where that fails half way. -/
def change (operation : Files → Except SystemError Unit × Files) : Step Unit := do
  let session ← get
  let (outcome, files) := operation session.files
  set { session with files }
  match outcome with
  | .ok () => pure ()
  | .error cause => throw (.io cause)

def ownerOnly : Nat := 0o600

def makeKeyDirectory (keyPath : String) : Step Unit :=
  match Path.parent? keyPath with
  | some dir => change (·.makeDirectories dir)
  | none => pure ()

def protectKey (keyPath : String) : Step Unit :=
  change fun files =>
    match files.setMode keyPath ownerOnly with
    | .ok files => (.ok (), files)
    | .error cause => (.error cause, files)

def startServer (binary : Binary) (path keyPath : String) : Step Unit := do
  makeKeyDirectory keyPath
  call binary path ["keygen", keyPath]
  protectKey keyPath
  call binary path ["start-server"]

def defaultKeyPath (home : Option String) : String :=
  Path.join (Path.join (home.getD "/root") ".android") "adbkey"

end EmulatorHost.Adb.Bootstrap
