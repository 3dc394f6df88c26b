import EmulatorHost.Agent.Shell
import EmulatorHost.Agent.Subscription
import EmulatorHost.ControlPlane.Rehearsal

/-!
# The host that an agent serves

A host is a control plane in rehearsal, a daemon, a console log, and the streams that clients follow,
each under a name. `Host.serve` is one call: every producer has gone as far as it can when the call
ends. The clock moves only while a client waits for an item.
-/

namespace EmulatorHost.Agent

open ControlPlane

inductive Request where
  | command (command : Command)
  | startEmulator (options : LaunchOptions)
  | sendInput (touch : Option Touch)
  | listDirectory (path : String)
  | statFile (path : String) (followLinks : Bool)
  | pullFile (path : String)
  | pushFile (stream : ClientStream PushMessage)
  | openShell (stream : ClientStream ShellMessage)
  | openStates (name : String)
  | openDisplay (name : String) (format : Int) (rate interval : Nat)
  | openLog (name : String)
  | publish (lines : List String)
  | leave (name : String)
  | next (name : String) (count : Nat)

inductive Rest where
  -- As many items were taken as were asked for, or there is no such stream.
  | more
  -- No further item came in time.
  | nothing
  | over
deriving DecidableEq, Repr, Inhabited

inductive Answer where
  | reply (reply : Reply)
  | entries (outcome : Except Status (List Adb.Sync.Entry))
  | stat (outcome : Except Status Adb.StatOutcome)
  | pulled (outcome : Except Status (ServerStream PullItem))
  | shell (outcome : Except Status (ServerStream ShellItem))
  | listeners (count : Nat)
  | left
  | taken (items : List Item) (rest : Rest)

/-- A host. The clock is in milliseconds. -/
structure Host where
  rehearsal : Rehearsal
  daemon : Adb.Daemon
  log : SysLog
  streams : List (String × Subscription)
  now : Nat

namespace Host

def begin (scripts : List LaunchScript) (daemon : Adb.Daemon) : Host :=
  ⟨.begin scripts, daemon, .empty, [], 0⟩

def plane (host : Host) : ControlPlane :=
  host.rehearsal.course.plane

def settle (host : Host) : Host :=
  { host with
    streams := host.streams.map fun (name, stream) => (name, stream.settle host.plane host.now) }

def passTo (host : Host) (time : Nat) : Host :=
  { host with
    streams := host.streams.map fun (name, stream) => (name, stream.pass host.plane time)
    now := time }

def stream? (host : Host) (name : String) : Option Subscription :=
  host.streams.lookup name

def leave (host : Host) (name : String) : Host :=
  { host with
    streams := host.streams.filter fun entry => entry.1 != name
    log :=
      match host.stream? name with
      | some stream => stream.leave host.log
      | none => host.log }

/-- Puts a stream under a name, in the stead of the one that was there. -/
def follow (host : Host) (name : String) (stream : Subscription) : Host :=
  let host := host.leave name
  { host with streams := host.streams ++ [(name, stream)] }

def command (host : Host) (command : Command) : Host × Reply :=
  let (rehearsal, reply) := host.rehearsal.follow command
  ({ host with rehearsal }, reply)

/-- A display without area is refused before any launch. -/
def startEmulator (host : Host) (options : LaunchOptions) : Host × Reply :=
  if options.profile.lcdWidth == 0 || options.profile.lcdHeight == 0 then
    (host, .done (.error (invalid "lcd_width and lcd_height are required")))
  else host.command (.start options)

def sendInput (host : Host) : Option Touch → Host × Reply
  | some touch => host.command (.touch touch)
  | none => (host, .done (.error (invalid "no request given")))

def openDisplay (host : Host) (name : String) (format : Int) (rate interval : Nat) :
    Host × Reply :=
  match displayProcessor format interval with
  | .error status => (host, .done (.error status))
  | .ok processor =>
    (host.follow name (.toDisplay processor rate host.now), .done (.ok ()))

def openLog (host : Host) (name : String) : Host :=
  let (listener, log) := host.log.listen
  { host with log }.follow name (.lines listener)

def takeReady (host : Host) (name : String) : Option (Item × Host) :=
  match host.stream? name with
  | none => none
  | some stream =>
    match stream.pop? host.log with
    | none => none
    | some (item, stream, log) =>
      some (item, { host with
        log
        streams := host.streams.map fun (other, old) =>
          (other, if other == name then stream else old) }.settle)

def patience : Nat := 10000

/-- The time at which a client that begins to wait now gives up: the first one past its patience. -/
def waitLimit (host : Host) : Nat :=
  host.now + patience + 1

/-- A client waits in vain, unless the stream is over. -/
def giveUp (host : Host) (name : String) (limit : Nat) : Rest × Host :=
  if (host.stream? name).any Subscription.isOver then (.over, host)
  else (.nothing, host.passTo limit)

/-- A client waits for an item of a stream. A producer that wakes in the meantime wakes to at most
one new value, so waiting for its first awakening is enough. -/
def await (host : Host) (name : String) : Except Rest Item × Host :=
  let limit := host.waitLimit
  let inVain (host : Host) :=
    let (rest, host) := host.giveUp name limit
    (Except.error rest, host)
  match host.takeReady name with
  | some (item, host) => (.ok item, host)
  | none =>
    match (host.stream? name).bind Subscription.wakesAt? with
    | none => inVain host
    | some time =>
      if time < limit then
        let host := host.passTo time
        match host.takeReady name with
        | some (item, host) => (.ok item, host)
        | none => inVain host
      else inVain host

def take (host : Host) (name : String) : Nat → List Item × Rest × Host
  | 0 => ([], .more, host)
  | count + 1 =>
    match host.await name with
    | (.error rest, host) => ([], rest, host)
    | (.ok item, host) =>
      let (items, rest, host) := host.take name count
      (item :: items, rest, host)

/-- Serves a request, before the producers go on. -/
def handle (host : Host) : Request → Host × Answer
  | .command command =>
    let (host, reply) := host.command command
    (host, .reply reply)
  | .startEmulator options =>
    let (host, reply) := host.startEmulator options
    (host, .reply reply)
  | .sendInput touch =>
    let (host, reply) := host.sendInput touch
    (host, .reply reply)
  | .listDirectory path =>
    let (outcome, daemon) := listDirectory host.plane path host.daemon
    ({ host with daemon }, .entries outcome)
  | .statFile path followLinks =>
    let (outcome, daemon) := statFile host.plane path followLinks host.daemon
    ({ host with daemon }, .stat outcome)
  | .pullFile path =>
    let (outcome, daemon) := pullFile host.plane path host.daemon
    ({ host with daemon }, .pulled outcome)
  | .pushFile stream =>
    let (outcome, daemon) := pushFile host.plane stream host.daemon
    ({ host with daemon }, .reply (.done outcome))
  | .openShell stream =>
    let (outcome, daemon) := openShell host.plane stream host.daemon
    ({ host with daemon }, .shell outcome)
  | .openStates name => (host.follow name .toStates, .reply (.done (.ok ())))
  | .openDisplay name format rate interval =>
    let (host, reply) := host.openDisplay name format rate interval
    (host, .reply reply)
  | .openLog name => (host.openLog name, .reply (.done (.ok ())))
  | .publish lines =>
    let log := host.log.publishAll lines
    ({ host with log }, .listeners log.listeners.length)
  | .leave name => (host.leave name, .left)
  | .next name count =>
    match host.stream? name with
    | none => (host, .taken [] .more)
    | some _ =>
      let (items, rest, host) := host.take name count
      (host, .taken items rest)

def serve (host : Host) (request : Request) : Host × Answer :=
  let (host, answer) := host.handle request
  (host.settle, answer)

end Host

end EmulatorHost.Agent
