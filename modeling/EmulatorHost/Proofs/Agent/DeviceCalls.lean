import EmulatorHost.Agent.Files
import EmulatorHost.Proofs.Adb.Handshake
import EmulatorHost.Proofs.Agent.Admission
import EmulatorHost.Proofs.Sequence

/-!
# Calls that reach the device

What a call to the device does once the emulator runs and the dial has met a peer: it runs on one
fresh connection, which takes all that is written, and what is left of the connection is kept. A call
with a stream tells its client items, and in the end perhaps a status.
-/

namespace EmulatorHost

namespace Agent

open Adb ControlPlane

def dialledTo (peer : Peer) : Connection :=
  .ofPeer peer.source .unlimited

theorem takes_dialledTo (peer : Peer) (data : Bytes) : (dialledTo peer).Takes data :=
  ⟨rfl, nofun⟩

/-- A peer that accepts both switches is reached for a file operation, and takes all that follows. -/
theorem on_openSync_dialledTo {peer : Peer} {reply : Bytes}
    (hreply : peer.source.bytes = Bytes.ofString "OKAY" ++ (Bytes.ofString "OKAY" ++ reply)) :
    ∃ opened, ((dialledTo peer).taking Client.syncRequests).Onward reply opened ∧
      (∀ data, opened.Takes data) ∧ Client.openSync.on (dialledTo peer) = (.ok (), opened) := by
  rw [Exchange.ofString_okay, ← List.append_assoc] at hreply
  rcases Client.trades_openSync.succeeds trivial (takes_dialledTo peer _) hreply with
    ⟨opened, hopened, hswitch⟩
  have htakes : ∀ data, opened.Takes data := by
    intro data
    refine ⟨hopened.isOpen, ?_⟩
    rw [hopened.sink]
    nofun
  exact ⟨opened, hopened, htakes, hswitch⟩

/-- An operation that succeeds does so as a part of a call. -/
theorem ofExchange_of_ok {α : Type} {operation : Exchange α} {connection left : Connection}
    {value : α} (hok : operation.on connection = (.ok value, left)) :
    Activity.ofExchange operation connection = (.ok value, left) := by
  simp only [Activity.ofExchange, hok]
  rfl

/-- An operation that fails ends the call with the status of its failure. -/
theorem ofExchange_of_error {α : Type} {operation : Exchange α} {connection left : Connection}
    {error : Error} (hfail : operation.on connection = (.error error, left)) :
    Activity.ofExchange operation connection = (.error error.status, left) := by
  simp only [Activity.ofExchange, hfail]
  rfl

theorem of_ofExchange_ok {α : Type} {operation : Exchange α} {connection left : Connection}
    {value : α} (hok : Activity.ofExchange operation connection = (.ok value, left)) :
    operation.on connection = (.ok value, left) := by
  rcases hrun : operation.on connection with ⟨error | result, after⟩
  · rw [ofExchange_of_error hrun] at hok
    cases hok
  · rw [ofExchange_of_ok hrun] at hok
    cases hok
    rfl

theorem ofExchange_ok_iff {α : Type} {operation : Exchange α} {connection : Connection}
    {value : α} :
    (Activity.ofExchange operation connection).1 = .ok value ↔
      (operation.on connection).1 = .ok value := by
  rcases hrun : operation.on connection with ⟨error | result, left⟩
  · rw [ofExchange_of_error hrun]
    exact iff_of_false nofun nofun
  · rw [ofExchange_of_ok hrun]
    simp only [Except.ok.injEq]

/-- Operations one after another are parts of a call one after another. -/
theorem ofExchange_bind {α β : Type} (operation : Exchange α) (next : α → Exchange β) :
    Activity.ofExchange (operation >>= next) =
      Activity.ofExchange operation >>= fun value => Activity.ofExchange (next value) := by
  funext connection
  rcases hfirst : operation.on connection with ⟨error | value, left⟩
  · rw [ofExchange_of_error (Exchange.on_bind_of_error hfirst next),
      Sequence.bind_of_error (ofExchange_of_error hfirst)]
  · rw [Sequence.bind_of_ok (ofExchange_of_ok hfirst)]
    simp only [Activity.ofExchange, Exchange.on_bind_of_ok hfirst]

/-- While the emulator runs, a call runs on the connection that its dial makes. -/
theorem onDevice_of_dial {α : Type} {plane : ControlPlane} {daemon : Daemon} {peer : Peer}
    {reach : Reach} {activity : Activity α} {outcome : Except Status α} {left : Connection}
    (hrunning : plane.phase = .running) (hdial : Daemon.dial daemon.reach = .ok (peer, reach))
    (hrun : activity (dialledTo peer) = (outcome, left)) :
    onDevice plane activity daemon = (outcome, ⟨reach, daemon.dialled ++ [left]⟩) := by
  have hgate : plane.requireRunning = .ok () := by
    rw [requireRunning_eq, if_pos hrunning]
  have huse : daemon.use activity = (.ok (peer, outcome), ⟨reach, daemon.dialled ++ [left]⟩) := by
    rw [Daemon.use, hdial]
    dsimp only
    rw [← dialledTo, hrun]
  rw [onDevice, hgate, huse]

/-- A call that succeeds has run on the connection that some peer was dialled with. -/
theorem of_onDevice_ok {α : Type} {plane : ControlPlane} {activity : Activity α}
    {daemon left : Daemon} {value : α}
    (hcall : onDevice plane activity daemon = (.ok value, left)) :
    ∃ peer connection, activity (dialledTo peer) = (.ok value, connection) := by
  rw [onDevice] at hcall
  rcases hgate : plane.requireRunning with refusal | ⟨⟩
  · rw [hgate] at hcall
    cases hcall
  · rw [hgate] at hcall
    dsimp only at hcall
    rw [Daemon.use] at hcall
    rcases hdial : Daemon.dial daemon.reach with error | ⟨peer, reach⟩
    · rw [hdial] at hcall
      cases hcall
    · rw [hdial] at hcall
      have houtcome : (activity (dialledTo peer)).1 = .ok value := congrArg Prod.fst hcall
      exact ⟨peer, (activity (dialledTo peer)).2, Prod.ext houtcome rfl⟩

/-! ## What a client is told -/

/-- All that a client is told over a stream, the status that ends it included. -/
def ServerStream.responses {α : Type} (stream : ServerStream α) : List (Except Status α) :=
  stream.items.map .ok ++ stream.failure.toList.map .error

def ServerStream.ofLast {α : Type} : Except Status α → ServerStream α
  | .ok item => ⟨[item], none⟩
  | .error status => .failed status

theorem ServerStream.responses_ofLast {α : Type} (response : Except Status α) :
    (ofLast response).responses = [response] := by
  cases response <;> rfl

end Agent

end EmulatorHost
