import EmulatorHost.Adb.Connection

/-!
# Dialling the daemon

Every operation of a client dials a connection of its own, and nothing is reused between operations.
`Daemon` is what listens at the daemon's address: the peers that the dials meet in turn, and the
connections made so far, as the operations on them left them.
-/

namespace EmulatorHost.Adb

/-- The far side of a connection: what it sends, and whether it then stays silent instead of ending
its direction. -/
structure Peer where
  source : Source
  staysSilent : Bool
deriving DecidableEq, Repr, Inhabited

inductive Reach where
  -- Every dial fails.
  | failing (cause : SystemError)
  -- The dials meet these peers in turn; any further one meets a peer that ends at once.
  | answering (peers : List Peer)
deriving DecidableEq, Repr, Inhabited

/-- What listens at the daemon's address, and the connections made so far, the latest last. -/
structure Daemon where
  reach : Reach
  dialled : List Connection
deriving DecidableEq, Repr, Inhabited

namespace Daemon

def defaultAddr : String := "127.0.0.1:5037"

def ofReach (reach : Reach) : Daemon :=
  ⟨reach, []⟩

/-- The peer that ends at once. -/
def mutePeer : Peer :=
  ⟨.ofBytes [] .finished, false⟩

/-- Dials: the peer that is met, and what further dials meet. -/
def dial : Reach → Except Error (Peer × Reach)
  | .failing cause => .error (.io cause)
  | .answering [] => .ok (mutePeer, .answering [])
  | .answering (peer :: rest) => .ok (peer, .answering rest)

/-- Dials a connection and uses it; what is left of it is kept. Answers with the peer, too. -/
def use {α : Type} (activity : StateM Connection α) (daemon : Daemon) :
    Except Error (Peer × α) × Daemon :=
  match dial daemon.reach with
  | .error error => (.error error, daemon)
  | .ok (peer, reach) =>
    let (value, connection) := activity (.ofPeer peer.source .unlimited)
    (.ok (peer, value), ⟨reach, daemon.dialled ++ [connection]⟩)

def run {α : Type} (operation : Exchange α) (daemon : Daemon) : Except Error α × Daemon :=
  match daemon.use operation with
  | (.error error, daemon) => (.error error, daemon)
  | (.ok (_, outcome), daemon) => (outcome, daemon)

/-- What was sent on each connection made since there were `count` of them. -/
def sentSince (count : Nat) (daemon : Daemon) : List Bytes :=
  (daemon.dialled.drop count).map fun connection => connection.sink.sent

end Daemon

end EmulatorHost.Adb
