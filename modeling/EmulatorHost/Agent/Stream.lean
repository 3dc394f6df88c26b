import EmulatorHost.Adb.Connection
import EmulatorHost.Status.Causes

/-!
# Streams of a call

A call may carry a stream of messages from the client and a stream of items to it. The client's
stream ends of itself or fails with a status; the stream to the client ends after its items, or with
one status after them.
-/

namespace EmulatorHost.Agent

structure ClientStream (α : Type) where
  messages : List α
  failure : Option Status
deriving DecidableEq, Repr, Inhabited

namespace ClientStream

variable {α : Type}

/-- How the stream fails after its messages, if it does. One that the client cancels merely ends. -/
def ending (stream : ClientStream α) : Option Status :=
  stream.failure.filter (·.code != .cancelled)

def next (stream : ClientStream α) : Except Status (Option (α × ClientStream α)) :=
  match stream.messages, stream.ending with
  | message :: rest, _ => .ok (some (message, { stream with messages := rest }))
  | [], none => .ok none
  | [], some status => .error status

end ClientStream

structure ServerStream (α : Type) where
  items : List α
  failure : Option Status
deriving DecidableEq, Repr, Inhabited

namespace ServerStream

variable {α : Type}

def ended : ServerStream α :=
  ⟨[], none⟩

def failed (status : Status) : ServerStream α :=
  ⟨[], some status⟩

def cons (item : α) (stream : ServerStream α) : ServerStream α :=
  { stream with items := item :: stream.items }

end ServerStream

abbrev Activity := ExceptT Status (StateM Adb.Connection)

def Activity.ofExchange {α : Type} (operation : Adb.Exchange α) : Activity α :=
  fun connection =>
    let (outcome, connection) := operation.on connection
    (outcome.mapError Adb.Error.status, connection)

def invalid (message : String) : Status :=
  ⟨.invalidArgument, message⟩

/-- The refusal of a stream that begins with something else than its start. -/
def missingStart : Status :=
  invalid "stream must begin with a start request"

def unknownRequest : Status :=
  invalid "unknown request"

end EmulatorHost.Agent
