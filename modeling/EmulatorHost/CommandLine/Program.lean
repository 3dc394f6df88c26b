import EmulatorHost.Agent.Host
import EmulatorHost.CommandLine.Command
import EmulatorHost.CommandLine.Endpoint
import EmulatorHost.CommandLine.Listing
import EmulatorHost.CommandLine.Transfer

/-!
# Running a command line

A run reads the command line, checks the agent's address, reaches the agent or not, and carries out
the command there. It ends with an exit status, what it printed, and the local files as they are
then; a run that follows a stream has no exit status while the stream goes on.
-/

namespace EmulatorHost.CommandLine

open Agent

inductive Failure where
  | usage (error : UsageError)
  | address (fault : AddressFault)
  | transport
  -- The agent refused, or a stream failed.
  | status (status : Status)
  -- A local file cannot be used.
  | file (cause : SystemError)
  | mode (fault : Push.ModeFault)
deriving DecidableEq, Repr, Inhabited

namespace Failure

/-- The exit status of a failed run; showing help or the version is none of its failures. -/
def exitStatus : Failure → Nat
  | usage .help | usage .version => 0
  | usage _ => 2
  | _ => 1

def className (number : Int) : String :=
  if number = 2 then "NotFound"
  else if number = 13 then "PermissionDenied"
  else if number = 17 then "AlreadyExists"
  else if number = 20 then "NotADirectory"
  else if number = 21 then "IsADirectory"
  else if number = 36 then "InvalidFilename"
  else "Uncategorized"

/-- How a failure with a local file is shown. The only one without a number is that of a path which
the operating system is not even asked about. -/
def fileText : SystemError → String
  | .code number =>
    "Os \x7b code: " ++ toString number ++ ", kind: " ++ className number ++ ", message: " ++
      Text.quoted (SystemError.describe number) ++ " \x7d"
  | .text message =>
    "Error \x7b kind: InvalidInput, message: " ++ Text.quoted message ++ " \x7d"

def message : Failure → String
  | usage _ => "usage error"
  | address fault => "Error: " ++ fault.message ++ "\n"
  | transport => "transport error"
  | status refusal =>
    "Error: Status \x7b code: " ++ refusal.code.name ++ ", message: " ++
      Text.quoted refusal.message
  | file cause => "Error: " ++ fileText cause ++ "\n"
  | mode fault => "Error: ParseIntError \x7b kind: " ++ fault.word ++ " \x7d\n"

end Failure

inductive Ending where
  | exited (status : Nat)
  -- A stream goes on.
  | following
deriving DecidableEq, Repr, Inhabited

/-- What a run works with: the agent's host, the local files and the time of their last change, the
standard input, and what has been printed. -/
structure Desk where
  host : Host
  files : Files
  mtime : UInt32
  stdin : Bytes
  stdout : Bytes
  stderr : Bytes

abbrev Job := ExceptT Failure (StateM Desk)

namespace Job

def write (data : Bytes) : Job Unit :=
  modify fun desk => { desk with stdout := desk.stdout ++ data }

def writeError (data : Bytes) : Job Unit :=
  modify fun desk => { desk with stderr := desk.stderr ++ data }

def printLine (line : String) : Job Unit :=
  write (Bytes.ofString (line ++ "\n"))

def printErrorLine (line : String) : Job Unit :=
  writeError (Bytes.ofString (line ++ "\n"))

/-- The value of a call that may have been refused. -/
def accepted {α : Type} : Except Status α → Job α
  | .ok value => pure value
  | .error status => throw (.status status)

def call (operation : Host → Host × ControlPlane.Reply) : Job Unit := do
  let desk ← get
  let (host, reply) := operation desk.host
  set { desk with host }
  match reply with
  | .done result => accepted result
  | .noMonitor | .dropped => pure ()

def callDevice {α : Type}
    (operation : ControlPlane → Adb.Daemon → Except Status α × Adb.Daemon) : Job α := do
  let desk ← get
  let (outcome, daemon) := operation desk.host.plane desk.host.daemon
  set { desk with host := { desk.host with daemon } }
  accepted outcome

def streamName : String := ""

/-- Prints items of the stream that is followed, up to one that is a failure. -/
def printItems : List Item → Job Unit
  | [] => pure ()
  | .state report :: rest => do
    printLine (stateLine report)
    printItems rest
  | .packet packet :: rest => do
    printLine (packetLine packet)
    printItems rest
  | .line line :: rest => do
    printLine line
    printItems rest
  | .failure status :: _ => throw (.status status)

/-- Takes at most `count` items of the stream that is followed, and prints them. -/
def follow (count : Nat) : Job Ending := do
  let desk ← get
  let (items, rest, host) := desk.host.take streamName count
  set { desk with host }
  printItems items
  return (match rest with
    | .over => .exited 0
    | _ => .following)

/-- More items than any stream has at hand. -/
def allAtHand : Nat := Feed.capacity + SysLog.capacity

def openStream (request : Request) : Job Unit := do
  let desk ← get
  let (host, answer) := desk.host.serve request
  set { desk with host }
  match answer with
  | .reply (.done result) => accepted result
  | _ => pure ()

def pull (remote localPath : String) : Job Ending := do
  let stream ← callDevice (pullFile · remote)
  let content := Pull.content stream.items
  let desk ← get
  match desk.files.write localPath content Files.newFileMode with
  | .error cause => throw (.file cause)
  | .ok files =>
    set { desk with files }
    match Pull.failure stream with
    | some status => throw (.status status)
    | none =>
      printLine (toString content.length ++ " bytes written to " ++ localPath)
      return .exited 0

def push (localPath remote mode : String) : Job Ending := do
  match Push.readMode mode with
  | .error fault => throw (.mode fault)
  | .ok mode =>
    let desk ← get
    match desk.files.read localPath with
    | .error cause => throw (.file cause)
    | .ok data =>
      callDevice (pushFile · ⟨Push.messages remote mode data desk.mtime, none⟩)
      printLine (toString data.length ++ " bytes pushed to " ++ remote)
      return .exited 0

def shell (terminal : Bool) (term : Option String) (words : List String) : Job Ending := do
  let desk ← get
  let stream ← callDevice (openShell · ⟨Session.messages terminal term words desk.stdin, none⟩)
  write (Session.output .out stream.items)
  writeError (Session.output .err stream.items)
  let code ← accepted (Session.result stream)
  return .exited (Session.processStatus code)

/-- A tap is a touch that is pressed and then released. -/
def tap (x y : UInt32) : Job Ending := do
  call (·.sendInput (some ⟨0, x, y, 1, 0, 0⟩))
  call (·.sendInput (some ⟨0, x, y, 0, 0, 0⟩))
  return .exited 0

def stat (path : String) (followLinks json : Bool) : Job Ending := do
  match ← callDevice (statFile · path followLinks) with
  | .stat record =>
    printLine (statText json record)
    return .exited 0
  | .error number =>
    printErrorLine ("stat failed with errno " ++ toString number.toNat)
    return .exited 1

def ofCommand : Command → Job Ending
  | .state followed => do
    openStream (.openStates streamName)
    if followed then follow allAtHand
    else
      let _ ← follow 1
      return .exited 0
  | .start ram cores density width height root => do
    call (·.startEmulator ⟨⟨ram, cores, density, width, height⟩, root⟩)
    printLine "starting"
    return .exited 0
  | .stop force => do
    call (·.command (.stop force))
    printLine "stopping"
    return .exited 0
  | .list path json => do
    let entries ← callDevice (listDirectory · path)
    (listLines json entries).forM printLine
    return .exited 0
  | .stat path noFollow json => stat path (!noFollow) json
  | .pull remote localPath => pull remote localPath
  | .push localPath remote mode => push localPath remote mode
  | .shell terminal term words => shell terminal term words
  | .syslog => do
    openStream (.openLog streamName)
    follow allAtHand
  | .tap x y => tap x y
  | .display format maxFps interval => do
    openStream (.openDisplay streamName format.number maxFps.toNat interval.toNat)
    follow allAtHand

end Job

structure Outcome where
  -- The exit status, unless a stream goes on.
  exitStatus : Option Nat
  desk : Desk

def Outcome.failed (failure : Failure) (desk : Desk) : Outcome :=
  ⟨some failure.exitStatus, { desk with stderr := desk.stderr ++ Bytes.ofString failure.message }⟩

def prepare (defaultAddr : String) (words : List String) : Except Failure Command :=
  match parse defaultAddr words with
  | .error error => .error (.usage error)
  | .ok invocation =>
    match Endpoint.check invocation.addr with
    | .error fault => .error (.address fault)
    | .ok () => .ok invocation.command

def run (defaultAddr : String) (words : List String) (isReachable : Bool) (desk : Desk) :
    Outcome :=
  match prepare defaultAddr words with
  | .error failure => .failed failure desk
  | .ok command =>
    if isReachable then
      match (Job.ofCommand command).run desk with
      | (.ok (.exited status), desk) => ⟨some status, desk⟩
      | (.ok .following, desk) => ⟨none, desk⟩
      | (.error failure, desk) => .failed failure desk
    else .failed .transport desk

end EmulatorHost.CommandLine
