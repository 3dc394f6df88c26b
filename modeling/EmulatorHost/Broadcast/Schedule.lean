import EmulatorHost.Broadcast

/-!
# Broadcasts step by step

Any number of callers and listeners share one broadcaster. What they do falls into atomic steps: a
caller stores a value, or closes the broadcaster, and notifies afterwards; a listener in a wait
registers for notification, checks the broadcaster, and parks; its wait may be abandoned or
cancelled. A notification reaches every listener that is registered or parked at that moment.
`Hub.step` is one such step, and the calls of the public interface are sequences of them.
-/

namespace EmulatorHost.Broadcast

inductive Phase where
  | idle
  -- In a wait, at the beginning of a round.
  | entering
  -- Registered and not yet checked; the flag tells whether a notification has come since.
  | registered (notified : Bool)
  -- Registered, and the check found nothing.
  | checked (notified : Bool)
  -- Waiting for a notification.
  | parked
  | dropped
deriving DecidableEq, Repr, Inhabited

def Phase.notify : Phase → Phase
  | registered _ => registered true
  | checked _ => checked true
  | parked => entering
  | phase => phase

structure Listener where
  seen : Nat
  phase : Phase
deriving DecidableEq, Repr, Inhabited

/-- A broadcaster with its listeners, and the number of callers that have stored but not yet
notified. -/
structure Hub (α : Type) where
  slot : Broadcaster α
  unnotified : Nat
  listeners : List Listener
deriving Repr

/-- The atomic steps. Listeners go by the order in which they were made. -/
inductive Step (α : Type) where
  | store (value : α)
  | close
  | notify
  | listen
  | enter (listener : Nat)
  | register (listener : Nat)
  | check (listener : Nat)
  | park (listener : Nat)
  | abandon (listener : Nat)
  | cancel (listener : Nat)
  | drop (listener : Nat)
deriving Repr

abbrev WaitOutcome (α : Type) := Except WaitError α

namespace Hub

variable {α : Type}

def init : Hub α :=
  ⟨.empty, 0, []⟩

/-- Where a listener stands; one that was never made is no more. -/
def phase (hub : Hub α) (listener : Nat) : Phase :=
  match hub.listeners[listener]? with
  | some state => state.phase
  | none => .dropped

def seen (hub : Hub α) (listener : Nat) : Nat :=
  match hub.listeners[listener]? with
  | some state => state.seen
  | none => 0

def move (hub : Hub α) (listener : Nat) (phase : Phase) : Hub α :=
  { hub with listeners := hub.listeners.modify listener fun state => { state with phase } }

def check (hub : Hub α) (listener : Nat) (notified : Bool) :
    Hub α × Option (WaitOutcome α) :=
  let before := hub.seen listener
  match hub.slot.poll before with
  | none => (hub.move listener (.checked notified), none)
  | some outcome =>
    let seen := hub.slot.seenAfter before (some outcome)
    ({ hub with listeners := hub.listeners.modify listener fun _ => ⟨seen, .idle⟩ },
      some outcome)

/-- One atomic step, if it is possible, and the outcome of the wait that it ends, if it ends one. -/
def step (hub : Hub α) : Step α → Option (Hub α × Option (WaitOutcome α))
  | .store value =>
    some ({ hub with
      slot := hub.slot.broadcast value, unnotified := hub.unnotified + 1 }, none)
  | .close =>
    some ({ hub with slot := hub.slot.close, unnotified := hub.unnotified + 1 }, none)
  | .notify =>
    if hub.unnotified = 0 then none
    else
      some ({ hub with
        unnotified := hub.unnotified - 1
        listeners := hub.listeners.map fun state => { state with phase := state.phase.notify } },
        none)
  | .listen => some ({ hub with listeners := hub.listeners ++ [⟨0, .idle⟩] }, none)
  | .enter listener =>
    if hub.phase listener = .idle then some (hub.move listener .entering, none) else none
  | .register listener =>
    if hub.phase listener = .entering then some (hub.move listener (.registered false), none)
    else none
  | .check listener =>
    match hub.phase listener with
    | .registered notified => some (hub.check listener notified)
    | _ => none
  | .park listener =>
    match hub.phase listener with
    | .checked true => some (hub.move listener .entering, none)
    | .checked false => some (hub.move listener .parked, none)
    | _ => none
  | .abandon listener =>
    match hub.phase listener with
    | .idle | .dropped => none
    | _ => some (hub.move listener .idle, none)
  | .cancel listener =>
    match hub.phase listener with
    | .idle | .dropped => none
    | _ => some (hub.move listener .idle, some (.error .cancelled))
  | .drop listener =>
    if hub.phase listener = .dropped then none else some (hub.move listener .dropped, none)

/-- Takes a step that may not be possible, in which case nothing happens. -/
def attempt (hub : Hub α) (step : Step α) : Hub α × Option (WaitOutcome α) :=
  (hub.step step).getD (hub, none)

/-- Takes steps one after the other, up to one that ends a wait. -/
def attemptAll (hub : Hub α) : List (Step α) → Hub α × Option (WaitOutcome α)
  | [] => (hub, none)
  | step :: rest =>
    match hub.attempt step with
    | (hub, some outcome) => (hub, some outcome)
    | (hub, none) => hub.attemptAll rest

/-- One round of a listener's wait: it ends the wait, or parks. -/
def round (hub : Hub α) (listener : Nat) : Hub α × Option (WaitOutcome α) :=
  hub.attemptAll [.register listener, .check listener, .park listener]

/-- Lets the listeners from `listener` on that have been notified go on, and collects the waits
that end. -/
def resumeFrom (hub : Hub α) (listener : Nat) : Nat →
    Hub α × List (Nat × WaitOutcome α)
  | 0 => (hub, [])
  | count + 1 =>
    if hub.phase listener = .entering then
      let (hub, outcome) := hub.round listener
      let (hub, rest) := hub.resumeFrom (listener + 1) count
      match outcome with
      | some outcome => (hub, (listener, outcome) :: rest)
      | none => (hub, rest)
    else hub.resumeFrom (listener + 1) count

def resume (hub : Hub α) : Hub α × List (Nat × WaitOutcome α) :=
  hub.resumeFrom 0 hub.listeners.length

def broadcast (hub : Hub α) (value : α) : Hub α × List (Nat × WaitOutcome α) :=
  (hub.attemptAll [.store value, .notify]).1.resume

def close (hub : Hub α) : Hub α × List (Nat × WaitOutcome α) :=
  (hub.attemptAll [.close, .notify]).1.resume

def listen (hub : Hub α) : Hub α × Nat :=
  ((hub.attempt .listen).1, hub.listeners.length)

def wait (hub : Hub α) (listener : Nat) : Hub α × Option (WaitOutcome α) :=
  (hub.attempt (.enter listener)).1.round listener

/-- Begins a wait, and abandons it if it does not end at once. -/
def waitBriefly (hub : Hub α) (listener : Nat) : Hub α × Option (WaitOutcome α) :=
  match hub.wait listener with
  | (hub, some outcome) => (hub, some outcome)
  | (hub, none) => ((hub.attempt (.abandon listener)).1, none)

/-- A wait that is cancelled from the start: the cancellation comes before the value. -/
def waitCancelled (hub : Hub α) (listener : Nat) : Hub α × WaitOutcome α :=
  ((hub.attemptAll [.enter listener, .cancel listener]).1, .error .cancelled)

def drop (hub : Hub α) (listener : Nat) : Hub α :=
  (hub.attempt (.drop listener)).1

end Hub

end EmulatorHost.Broadcast
