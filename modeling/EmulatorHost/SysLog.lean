import EmulatorHost.Files
import EmulatorHost.Text.Lines

/-!
# The console log

The lines of the emulator's serial console are offered to every listener, without replaying what came
before it listened. Each listener has a queue of its own; a line that finds the queue full is lost to
that listener alone. A listener that went away is forgotten when the next line is published.
-/

namespace EmulatorHost

namespace SysLog

def capacity : Nat := 100

/-- A listener's queue, oldest line first, and whether anyone still takes lines from it. -/
structure Listener where
  queue : List String
  isOpen : Bool
deriving DecidableEq, Repr, Inhabited

def Listener.offer (line : String) (listener : Listener) : Listener :=
  if listener.queue.length < capacity then { listener with queue := listener.queue ++ [line] }
  else listener

abbrev ListenerId := Nat

end SysLog

open SysLog in
structure SysLog where
  listeners : List (ListenerId × Listener)
  made : Nat
deriving DecidableEq, Repr, Inhabited

namespace SysLog

def empty : SysLog :=
  ⟨[], 0⟩

def listen (log : SysLog) : ListenerId × SysLog :=
  (log.made, ⟨log.listeners ++ [(log.made, ⟨[], true⟩)], log.made + 1⟩)

/-- Offers a line to every listener, and forgets those that went away. -/
def publish (log : SysLog) (line : String) : SysLog :=
  { log with
    listeners := (log.listeners.filter (·.2.isOpen)).map fun (id, listener) =>
      (id, listener.offer line) }

def publishAll (log : SysLog) (lines : List String) : SysLog :=
  lines.foldl publish log

def modify (log : SysLog) (id : ListenerId) (change : Listener → Listener) : SysLog :=
  { log with
    listeners := log.listeners.map fun (other, listener) =>
      (other, if other == id then change listener else listener) }

def drop (log : SysLog) (id : ListenerId) : SysLog :=
  log.modify id fun _ => ⟨[], false⟩

def queue (log : SysLog) (id : ListenerId) : List String :=
  match log.listeners.lookup id with
  | some listener => listener.queue
  | none => []

/-- A listener takes at most `count` lines from its queue. -/
def receive (log : SysLog) (id : ListenerId) (count : Nat) : List String × SysLog :=
  ((log.queue id).take count,
    log.modify id fun listener => { listener with queue := listener.queue.drop count })

/-- Publishes what one console connection sends until it closes: its lines, up to the first that is
not UTF-8. -/
def pump (log : SysLog) (bytes : Bytes) : SysLog :=
  log.publishAll (Text.strictLines bytes)

/-- Starts the log on a socket, in the place of a stale one. -/
def start (files : Files) (socket : String) : Except SystemError (SysLog × Files) :=
  let cleared : Except SystemError Files :=
    match files.remove socket with
    | .ok files => .ok files
    | .error cause => if cause == .notFound then .ok files else .error cause
  match cleared with
  | .error cause => .error cause
  | .ok files =>
    match files.bind socket with
    | .error cause => .error cause
    | .ok files => .ok (empty, files)

end SysLog

end EmulatorHost
