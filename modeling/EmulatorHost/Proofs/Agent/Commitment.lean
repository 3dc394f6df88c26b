import EmulatorHost.Agent.Files
import EmulatorHost.Proofs.Adb.Commit
import EmulatorHost.Proofs.Agent.DeviceCalls

/-!
# What commits an upload

The device keeps a pushed file once the closing frame has come. A push is closed for the end message
of the client's stream only: a stream that breaks the rules, that ends too early or that fails, and
a device that fails at any step, leave an upload that is never committed. The main statement is
`commits_only_whole`.
-/

namespace EmulatorHost.Agent

open Adb Adb.Sync Adb.Exchange

/-! ## Streams of a push -/

/-- The messages after a start: these chunks, and then `tail`, which begins with no further chunk
that fits a frame. -/
structure Chunked (messages : List PushMessage) (chunks : List Bytes)
    (tail : List PushMessage) : Prop where
  messages_eq : messages = chunks.map .data ++ tail
  fits : ∀ chunk ∈ chunks, chunk.length ≤ 65536
  ended : ∀ chunk later, tail = .data chunk :: later → 65536 < chunk.length

theorem exists_chunked (messages : List PushMessage) :
    ∃ chunks tail, Chunked messages chunks tail := by
  induction messages with
  | nil =>
      exact ⟨[], [], rfl, nofun, nofun⟩
  | cons message later ih =>
      -- A chunk that fits goes to the chunks; anything else begins the tail.
      by_cases hchunk : ∃ chunk, message = .data chunk ∧ chunk.length ≤ 65536
      · rcases hchunk with ⟨chunk, rfl, hfits⟩
        rcases ih with ⟨chunks, tail, hchunked⟩
        refine ⟨chunk :: chunks, tail, ?_, ?_, hchunked.ended⟩
        · rw [hchunked.messages_eq]
          rfl
        · exact List.forall_mem_cons.mpr ⟨hfits, hchunked.fits⟩
      · refine ⟨[], message :: later, rfl, nofun, ?_⟩
        intro chunk rest htail
        cases htail
        exact Nat.lt_of_not_le fun hfits => hchunk ⟨chunk, rfl, hfits⟩

/-- There is one way only to see the messages so. -/
theorem Chunked.unique {messages tail tail' : List PushMessage} {chunks chunks' : List Bytes}
    (hchunked : Chunked messages chunks tail) (hchunked' : Chunked messages chunks' tail') :
    chunks = chunks' ∧ tail = tail' := by
  have hsame : chunks.map .data ++ tail = chunks'.map .data ++ tail' :=
    hchunked.messages_eq.symm.trans hchunked'.messages_eq
  have hfits := hchunked.fits
  have hfits' := hchunked'.fits
  have hended := hchunked.ended
  have hended' := hchunked'.ended
  clear hchunked hchunked'
  -- On the chunks of the first way. Neither can stop before a chunk that fits.
  induction chunks generalizing chunks' with
  | nil =>
      cases chunks' with
      | nil =>
          exact ⟨rfl, hsame⟩
      | cons chunk later =>
          have hlong := hended chunk _ hsame
          exact absurd (hfits' chunk List.mem_cons_self) (Nat.not_le_of_lt hlong)
  | cons chunk later ih =>
      cases chunks' with
      | nil =>
          have hlong := hended' chunk _ hsame.symm
          exact absurd (hfits chunk List.mem_cons_self) (Nat.not_le_of_lt hlong)
      | cons chunk' later' =>
          rw [List.forall_mem_cons] at hfits hfits'
          have hparts : PushMessage.data chunk :: (later.map .data ++ tail) =
              .data chunk' :: (later'.map .data ++ tail') := hsame
          simp only [List.cons.injEq, PushMessage.data.injEq] at hparts
          rcases ih hparts.2 hfits.2 hfits'.2 with ⟨hlater, htail⟩
          exact ⟨by rw [hparts.1, hlater], htail⟩

def openingFault (stream : ClientStream PushMessage) : Status :=
  match stream.messages, stream.ending with
  | [], some status => status
  | _, _ => ⟨.invalidArgument, "stream must begin with a start request"⟩

/-- Why a stream is refused that goes on like this after its chunks. -/
def closingFault? (ending : Option Status) : List PushMessage → Option Status
  | [] => some (ending.getD ⟨.aborted, "push stream ended before completion"⟩)
  | .data chunk :: _ =>
    some ⟨.invalidArgument,
      "chunk of " ++ toString chunk.length ++ " bytes exceeds the 65536 byte limit"⟩
  | .finish _ :: _ => none
  | _ :: _ => some ⟨.invalidArgument, "unknown request"⟩

/-- The time that a push is closed with, if its stream goes on like this after its chunks. -/
def closing? : List PushMessage → Option UInt32
  | .finish mtime :: _ => some mtime
  | _ => none

/-! ## Sessions -/

theorem status_chunkTooLarge (length : Nat) :
    (Error.chunkTooLarge length maxData).status =
      ⟨.invalidArgument,
        "chunk of " ++ toString length ++ " bytes exceeds the 65536 byte limit"⟩ := by
  have hnumber : toString maxData = "65536" := by decide
  have htail : " bytes exceeds the " ++ "65536" ++ " byte limit" =
      " bytes exceeds the 65536 byte limit" := by decide
  have hmessage : (Error.chunkTooLarge length maxData).message =
      "chunk of " ++ toString length ++ " bytes exceeds the 65536 byte limit" := by
    calc (Error.chunkTooLarge length maxData).message
        = "chunk of " ++ toString length ++ " bytes exceeds the " ++ toString maxData ++
            " byte limit" := rfl
      _ = "chunk of " ++ toString length ++
            (" bytes exceeds the " ++ "65536" ++ " byte limit") := by
          simp only [hnumber, String.append_assoc]
      _ = "chunk of " ++ toString length ++ " bytes exceeds the 65536 byte limit" := by
          rw [htail]
  exact congrArg (Status.mk .invalidArgument) hmessage

/-- Chunks are passed on one after another before anything that follows them. -/
theorem pushMessages_append (ending : Option Status) (chunks : List Bytes)
    (tail : List PushMessage) :
    pushMessages ending (chunks.map .data ++ tail) =
      .ofExchange (chunks.forM sendChunk) >>= fun _ => pushMessages ending tail := by
  induction chunks with
  | nil =>
      rfl
  | cons chunk later ih =>
      have hcons : (chunk :: later).forM sendChunk =
          sendChunk chunk >>= fun _ => later.forM sendChunk := rfl
      change (Activity.ofExchange (sendChunk chunk) >>= fun _ =>
        pushMessages ending (later.map .data ++ tail)) = _
      rw [ih, hcons, ofExchange_bind, bind_assoc]

theorem pushSession_eq {messages : List PushMessage} {chunks : List Bytes}
    {tail : List PushMessage} (hmessages : messages = chunks.map .data ++ tail) (path : String)
    (mode : UInt32) (failure : Option Status) :
    pushSession path mode ⟨messages, failure⟩ =
      .ofExchange (Client.carry path mode chunks) >>= fun _ =>
        pushMessages (ClientStream.ending ⟨messages, failure⟩) tail := by
  rw [pushSession, hmessages, pushMessages_append, Client.carry, ofExchange_bind, bind_assoc]

section
variable {path : String} {mode : UInt32} {messages : List PushMessage} {chunks : List Bytes}
  {tail : List PushMessage} {failure : Option Status} {connection left : Connection}

/-- A stream that is at fault after its chunks ends the push with that fault, and nothing more is
written. -/
theorem pushMessages_of_fault (hchunked : Chunked messages chunks tail) {ending : Option Status}
    {status : Status} (hfault : closingFault? ending tail = some status) (connection : Connection) :
    ∃ left, pushMessages ending tail connection = (.error status, left) ∧
      left.sink = connection.sink := by
  cases tail with
  | nil =>
      cases hfault
      exact ⟨connection, rfl, rfl⟩
  | cons message later =>
      cases message with
      | start path mode =>
          cases hfault
          exact ⟨connection, rfl, rfl⟩
      | data chunk =>
          -- Such a chunk is refused by its size, before anything of it is written.
          have hlong : ¬ chunk.length ≤ maxData := by
            have hlength : maxData < chunk.length := hchunked.ended chunk later rfl
            omega
          have hsend : (sendChunk chunk).on connection =
              (.error (.chunkTooLarge chunk.length maxData),
                { connection with isOpen := false }) := by
            rw [sendChunk, if_neg hlong]
            rfl
          have hstatus : (Error.chunkTooLarge chunk.length maxData).status = status :=
            (status_chunkTooLarge chunk.length).trans (Option.some.inj hfault)
          refine ⟨{ connection with isOpen := false }, ?_, rfl⟩
          rw [← hstatus]
          exact Sequence.bind_of_error (ofExchange_of_error hsend) _
      | finish mtime =>
          cases hfault
      | empty =>
          cases hfault
          exact ⟨connection, rfl, rfl⟩

/-- What has come of a push, and what has been sent for it, once the session on an open connection
is over: `chunks` were the chunks after the start, and `tail` the messages after them. -/
structure Concluded (path : String) (mode : UInt32) (chunks : List Bytes) (tail : List PushMessage)
    (ending : Option Status) (connection : Connection) (outcome : Except Status Unit)
    (sent : Bytes) : Prop where
  -- What is sent is a beginning of the push, closed only by the end message after the chunks.
  begins : sent <+: Client.givenBytes path mode chunks (closing? tail)
  -- Only the end message after the chunks commits the upload, and it commits all of it.
  commits : ∀ {path' mode' chunks' mtime}, Client.Commits sent path' mode' chunks' mtime →
    (path' = path ∧ mode' = mode ∧ chunks' = chunks ∧ ∃ later, tail = .finish mtime :: later) ∧
      sent = Client.uploadBytes path mode chunks mtime
  -- The call is answered well exactly if the end message follows the chunks, the peer takes the
  -- upload, and the daemon accepts both switches and the upload.
  ok_iff : outcome = .ok () ↔ ∃ mtime later, tail = .finish mtime :: later ∧
    (Bytes.ofString path).length < 0x100000000 ∧
    connection.sink.HasRoom (Client.uploadBytes path mode chunks mtime).length ∧
    ∃ receipt, connection.source.bytes =
      Bytes.ofString "OKAY" ++ Bytes.ofString "OKAY" ++ receipt ∧ Accepts receipt
  -- A call that is answered well has committed the upload.
  committed : outcome = .ok () → ∃ mtime, Client.Commits sent path mode chunks mtime
  -- A stream at fault commits nothing and ends with its fault, unless a step on the connection
  -- failed before.
  faulty : ∀ status, closingFault? ending tail = some status →
    (∀ path' mode' chunks' mtime, ¬ Client.Commits sent path' mode' chunks' mtime) ∧
      match ((Client.carry path mode chunks).on connection).1 with
      | .ok () => outcome = .error status
      | .error error => outcome = .error error.status

/-- A stream that comes to its end message is passed on whole. -/
theorem pushSession_of_finish {mtime : UInt32} {later : List PushMessage}
    (hmessages : messages = chunks.map .data ++ .finish mtime :: later) :
    pushSession path mode ⟨messages, failure⟩ =
      .ofExchange (Client.upload path mode chunks mtime) := by
  rw [pushSession_eq hmessages, Client.upload, ofExchange_bind]
  rfl

theorem concluded_of_finish {mtime : UInt32} {later : List PushMessage}
    (hchunked : Chunked messages chunks (.finish mtime :: later))
    (hopen : connection.isOpen = true) (ending : Option Status) :
    ∃ sent,
      (pushSession path mode ⟨messages, failure⟩ connection).2.sink.sent =
        connection.sink.sent ++ sent ∧
      Concluded path mode chunks (.finish mtime :: later) ending connection
        (pushSession path mode ⟨messages, failure⟩ connection).1 sent := by
  rcases Client.writes_upload path mode chunks mtime hopen with ⟨written, hwritten, hsent, hall⟩
  rw [pushSession_of_finish hchunked.messages_eq]
  refine ⟨written, hsent, hwritten, ?_, ?_, ?_, nofun⟩
  · intro path' mode' chunks' mtime' hcommits
    rcases Client.commits_of_given hchunked.fits hwritten hcommits with
      ⟨⟨hpath, hmode, hchunks, htime⟩, hwhole⟩
    cases htime
    exact ⟨⟨hpath, hmode, hchunks, later, rfl⟩, hwhole⟩
  · rw [ofExchange_ok_iff, Client.upload_ok_iff hchunked.fits hopen]
    constructor
    · intro haccepted
      exact ⟨mtime, later, rfl, haccepted⟩
    · rintro ⟨_, _, ⟨⟩, haccepted⟩
      exact haccepted
  · intro hok
    rcases hall (ofExchange_ok_iff.mp hok) with ⟨hpath, rfl⟩
    refine ⟨mtime, hpath, ?_, List.prefix_refl _⟩
    intro chunk hchunk
    exact Nat.lt_of_le_of_lt (hchunked.fits chunk hchunk) (by decide)

/-- A session whose stream is at fault ends with the fault, or with the failure of a step before it,
and writes nothing after its last step. -/
theorem pushSession_of_fault (hchunked : Chunked messages chunks tail) {status : Status}
    (hfault : closingFault? (ClientStream.ending ⟨messages, failure⟩) tail = some status)
    (path : String) (mode : UInt32) (connection : Connection) :
    ∃ cause left,
      pushSession path mode ⟨messages, failure⟩ connection = (.error cause, left) ∧
      left.sink = ((Client.carry path mode chunks).on connection).2.sink ∧
      match ((Client.carry path mode chunks).on connection).1 with
      | .ok () => cause = status
      | .error error => cause = error.status := by
  rw [pushSession_eq hchunked.messages_eq]
  rcases hcarry : (Client.carry path mode chunks).on connection with ⟨error | _, middle⟩
  · exact ⟨_, middle, Sequence.bind_of_error (ofExchange_of_error hcarry) _, rfl, rfl⟩
  · rcases pushMessages_of_fault hchunked hfault middle with ⟨left, hrun, hsink⟩
    exact ⟨status, left, (Sequence.bind_of_ok (ofExchange_of_ok hcarry) _).trans hrun, hsink, rfl⟩

theorem concluded_of_fault (hchunked : Chunked messages chunks tail)
    (hopen : connection.isOpen = true) {status : Status}
    (hfault : closingFault? (ClientStream.ending ⟨messages, failure⟩) tail = some status) :
    ∃ sent,
      (pushSession path mode ⟨messages, failure⟩ connection).2.sink.sent =
        connection.sink.sent ++ sent ∧
      Concluded path mode chunks tail (ClientStream.ending ⟨messages, failure⟩) connection
        (pushSession path mode ⟨messages, failure⟩ connection).1 sent := by
  rcases Client.writes_carry path mode chunks hopen with ⟨written, hwritten, hsent⟩
  rcases pushSession_of_fault hchunked hfault path mode connection with ⟨cause, left, hrun, hsink,
    hcause⟩
  -- What is written before the end of a push holds no closing frame.
  have huncommitted : ∀ path' mode' chunks' mtime,
      ¬ Client.Commits written path' mode' chunks' mtime := by
    intro path' mode' chunks' mtime hcommits
    rcases Client.commits_of_given hchunked.fits hwritten hcommits with ⟨⟨-, -, -, hclosed⟩, -⟩
    cases hclosed
  have hunfinished : ∀ mtime later, tail ≠ .finish mtime :: later := by
    rintro mtime later rfl
    cases hfault
  rw [hrun]
  refine ⟨written, ?_, hwritten.trans (Client.begins_givenBytes _), ?_, ?_, nofun, ?_⟩
  · rw [hsink, hsent]
  · intro path' mode' chunks' mtime hcommits
    exact absurd hcommits (huncommitted _ _ _ _)
  · refine iff_of_false nofun ?_
    rintro ⟨mtime, later, htail, -⟩
    exact hunfinished mtime later htail
  · intro status' hstatus
    cases hfault.symm.trans hstatus
    refine ⟨huncommitted, ?_⟩
    revert hcause
    split
    · exact congrArg Except.error
    · exact congrArg Except.error

/-- However a session on an open connection goes, it is concluded as its stream says. -/
theorem exists_concluded (hchunked : Chunked messages chunks tail)
    (hopen : connection.isOpen = true) :
    ∃ sent,
      (pushSession path mode ⟨messages, failure⟩ connection).2.sink.sent =
        connection.sink.sent ++ sent ∧
      Concluded path mode chunks tail (ClientStream.ending ⟨messages, failure⟩) connection
        (pushSession path mode ⟨messages, failure⟩ connection).1 sent := by
  cases hfault : closingFault? (ClientStream.ending ⟨messages, failure⟩) tail with
  | some status =>
      exact concluded_of_fault hchunked hopen hfault
  | none =>
      -- Only the end message is at no fault.
      cases tail with
      | nil =>
          cases hfault
      | cons message later =>
          cases message <;> cases hfault
          exact concluded_of_finish hchunked hopen _

end

/-- A stream that begins with no start is refused before anything is dialled. -/
theorem pushFile_of_no_start {plane : ControlPlane} {stream : ClientStream PushMessage}
    (hgate : plane.requireRunning = .ok ())
    (hstart : ∀ path mode later, stream.messages ≠ .start path mode :: later) (daemon : Daemon) :
    pushFile plane stream daemon = (.error (openingFault stream), daemon) := by
  unfold pushFile openingFault ClientStream.next
  rw [hgate]
  cases hmessages : stream.messages with
  | nil =>
      cases stream.ending <;> rfl
  | cons message later =>
      cases message with
      | start path mode =>
          exact absurd hmessages (hstart path mode later)
      | data bytes =>
          rfl
      | finish mtime =>
          rfl
      | empty =>
          rfl

/-- A push, while the emulator runs, commits an upload only as a whole. A stream that begins with no
start is refused, and nothing is dialled. Any other stream has its chunks, and goes on after them in
some way; the call dials once, and whatever the daemon does, its session on the connection is
concluded as the stream says. -/
theorem commits_only_whole (plane : ControlPlane) (stream : ClientStream PushMessage)
    (daemon : Daemon) (hrunning : plane.phase = .running) :
    match stream.messages with
    | .start path mode :: later =>
      ∃ chunks tail, Chunked later chunks tail ∧
        (match Daemon.dial daemon.reach with
          | .error error => pushFile plane stream daemon = (.error error.status, daemon)
          | .ok (peer, reach) =>
            ∃ outcome left,
              pushSession path mode ⟨later, stream.failure⟩ (dialledTo peer) = (outcome, left) ∧
              pushFile plane stream daemon = (outcome, ⟨reach, daemon.dialled ++ [left]⟩)) ∧
        ∀ connection : Connection, connection.isOpen = true →
          ∃ outcome left sent,
            pushSession path mode ⟨later, stream.failure⟩ connection = (outcome, left) ∧
            left.sink.sent = connection.sink.sent ++ sent ∧
            Concluded path mode chunks tail stream.ending connection outcome sent
    | _ => pushFile plane stream daemon = (.error (openingFault stream), daemon) := by
  have hgate : plane.requireRunning = .ok () := by
    rw [requireRunning_eq, if_pos hrunning]
  split
  · rename_i path mode later hmessages
    rcases exists_chunked later with ⟨chunks, tail, hchunked⟩
    have hcall : pushFile plane stream daemon =
        onDevice plane (pushSession path mode ⟨later, stream.failure⟩) daemon := by
      simp only [pushFile, hgate, ClientStream.next, hmessages]
    refine ⟨chunks, tail, hchunked, ?_, ?_⟩
    · rw [hcall]
      split
      · rename_i error hdial
        rw [onDevice, hgate, Daemon.use, hdial]
      · rename_i peer reach hdial
        exact ⟨_, _, rfl, onDevice_of_dial hrunning hdial rfl⟩
    · intro connection hopen
      rcases exists_concluded hchunked hopen with ⟨sent, hsent, hconcluded⟩
      exact ⟨_, _, sent, rfl, hsent, hconcluded⟩
  · rename_i hstart
    exact pushFile_of_no_start hgate hstart daemon

def runningPlane : ControlPlane :=
  (ControlPlane.Course.initial.run [.start default (.ok ()), .started 1]).1.plane

/-- A stream that ends after a chunk is aborted and commits nothing, though the daemon accepts every
step. -/
theorem commits_only_whole_earlyEnd :
    let stream : ClientStream PushMessage := ⟨[.start "/f" 0o100644, .data [0x61]], none⟩
    let peer : Peer := ⟨.ofBytes (Bytes.ofString "OKAYOKAY") .finished, false⟩
    runningPlane.phase = .running ∧
      ∃ left,
        pushFile runningPlane stream (.ofReach (.answering [peer])) =
          (.error ⟨.aborted, "push stream ended before completion"⟩, ⟨.answering [], [left]⟩) ∧
        ∀ path mode chunks mtime, ¬ Client.Commits left.sink.sent path mode chunks mtime := by
  intro stream peer
  have hrunning : runningPlane.phase = .running := rfl
  rcases commits_only_whole runningPlane stream (.ofReach (.answering [peer])) hrunning with
    ⟨chunks, tail, hchunked, ⟨outcome, left, hsession, hcall⟩, hlaw⟩
  have hmessages : Chunked [.data [0x61]] [[0x61]] [] := ⟨rfl, by decide, nofun⟩
  rcases hchunked.unique hmessages with ⟨rfl, rfl⟩
  rcases hlaw (dialledTo peer) rfl with ⟨outcome', left', sent, hsession', hsent, hconcluded⟩
  rw [hsession] at hsession'
  cases hsession'
  have hcarry : ((Client.carry "/f" 0o100644 [[0x61]]).on (dialledTo peer)).1 = .ok () := by
    decide
  -- The steps before the end all succeed, so the fault is the stream's own.
  rcases hconcluded.faulty _ rfl with ⟨huncommitted, hfault⟩
  rw [hcarry] at hfault
  cases hfault
  refine ⟨hrunning, left, hcall, ?_⟩
  rw [hsent]
  exact huncommitted

end EmulatorHost.Agent
