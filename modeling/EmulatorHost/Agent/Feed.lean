import EmulatorHost.Agent.Ticker
import EmulatorHost.Broadcast
import EmulatorHost.Status

/-!
# Feeds

A feed carries a broadcast to one client: its producer waits for a tick if it is paced, then for a
value newer than the last it took, makes items of the value, and sends them into a buffer from which
the client takes them. A producer whose buffer is full waits, and takes only the latest value
afterwards. A value of which no items can be made ends the feed.
-/

namespace EmulatorHost.Agent

/-- What a producer makes of a value at a time: items for the client, or the status that ends the
feed, and what it remembers. -/
abbrev Maker (σ α β : Type) := σ → Nat → α → Except Status (List β) × σ

inductive Stage where
  | tick
  | value
  -- Nothing any more.
  | ended
deriving DecidableEq, Repr, Inhabited

/-- A feed: the generation its producer took last, what the producer remembers and waits for, the
items that the buffer has no room for yet, and those in the buffer. -/
structure Feed (σ β : Type) where
  seen : Nat
  memory : σ
  ticker : Option Ticker
  stage : Stage
  unsent : List (Except Status β)
  buffer : List (Except Status β)

namespace Feed

variable {σ α β : Type}

def capacity : Nat := 256

def begin (memory : σ) (ticker : Option Ticker) : Feed σ β :=
  ⟨0, memory, ticker, .tick, [], []⟩

/-- Sends what the buffer has room for. -/
def flush (feed : Feed σ β) : Feed σ β :=
  let room := capacity - feed.buffer.length
  { feed with
    unsent := feed.unsent.drop room
    buffer := feed.buffer ++ feed.unsent.take room }

/-- Goes on to wait for a value, if the producer waits for a tick and can take it. -/
def tick (feed : Feed σ β) (now : Nat) : Feed σ β :=
  match feed.stage, feed.ticker with
  | .tick, none => { feed with stage := .value }
  | .tick, some ticker =>
    if ticker.dueAt ≤ now then
      { feed with stage := .value, ticker := some (ticker.take now) }
    else feed
  | _, _ => feed

/-- Takes a value: its items are to be sent, and then the producer waits for the next tick. -/
def accept (make : Maker σ α β) (feed : Feed σ β) (now generation : Nat) (value : α) :
    Feed σ β :=
  match make feed.memory now value with
  | (.ok items, memory) =>
    { feed with
      seen := generation
      memory := memory
      stage := .tick
      unsent := items.map .ok }
  | (.error status, memory) =>
    { feed with
      seen := generation
      memory := memory
      stage := .ended
      unsent := [.error status] }

def takeValue (make : Maker σ α β) (source : Broadcaster α) (feed : Feed σ β) (now : Nat) :
    Feed σ β :=
  match feed.stage with
  | .value =>
    match source.poll feed.seen with
    | none => feed
    | some (.error _) => { feed with stage := .ended }
    | some (.ok value) => feed.accept make now source.generation value
  | _ => feed

/-- Lets the producer go on as far as one value. Nothing is taken before everything is sent. -/
def advance (make : Maker σ α β) (source : Broadcaster α) (feed : Feed σ β) (now : Nat) :
    Feed σ β :=
  let feed := feed.flush
  -- With a full buffer the producer waits, whatever is published meanwhile.
  if feed.unsent.isEmpty then (takeValue make source (feed.tick now) now).flush else feed

/-- Lets the producer go on as far as it can at a time: as a source holds one value, one round takes
it and another finds nothing new. -/
def settle (make : Maker σ α β) (source : Broadcaster α) (feed : Feed σ β) (now : Nat) :
    Feed σ β :=
  (feed.advance make source now).advance make source now

/-- When the producer will go on without anything new being published, if it waits for a tick. -/
def wakesAt? (feed : Feed σ β) : Option Nat :=
  match feed.stage, feed.ticker with
  | .tick, some ticker => if feed.unsent.isEmpty then some ticker.dueAt else none
  | _, _ => none

/-- Lets the producer go on at the times up to a limit at which it wakes. It takes the value of the
source at the first and finds nothing new at the second, so `rounds` is two. -/
def passUntil (make : Maker σ α β) (source : Broadcaster α) (limit : Nat) :
    Nat → Feed σ β → Feed σ β
  | 0, feed => feed
  | rounds + 1, feed =>
    match feed.wakesAt? with
    | some time =>
      if time ≤ limit then passUntil make source limit rounds (feed.settle make source time)
      else feed
    | none => feed

def pass (make : Maker σ α β) (source : Broadcaster α) (feed : Feed σ β) (limit : Nat) :
    Feed σ β :=
  passUntil make source limit 2 feed

def pop? (feed : Feed σ β) : Option (Except Status β × Feed σ β) :=
  match feed.buffer with
  | [] => none
  | item :: rest => some (item, { feed with buffer := rest })

def isOver (feed : Feed σ β) : Bool :=
  feed.stage == .ended && feed.unsent.isEmpty && feed.buffer.isEmpty

end Feed

end EmulatorHost.Agent
