import EmulatorHost.Proofs.Adb.Reading
import EmulatorHost.Proofs.Adb.Room
import EmulatorHost.Proofs.Adb.Upload

/-!
# Pushes

A push asks for a path, carries the content in data frames and ends with a closing frame, which the
device answers with a receipt. A push that finishes well has written all of that and nothing else; a
push of which one chunk fails writes nothing more and does not finish. The main statement is
`finishes_iff_whole`.
-/

namespace EmulatorHost.Adb.Sync

open Exchange

/-! ## Pushing -/

structure Push where
  opened : Except Error Unit
  sends : List (Except Error Unit)
  finished : Except Error Unit
  left : Connection

/-- Sends chunks one after another, whatever comes of each. -/
def sendAll (connection : Connection) : List Bytes → List (Except Error Unit) × Connection
  | [] => ([], connection)
  | chunk :: later =>
    let (outcome, left) := (sendChunk chunk).on connection
    let (outcomes, last) := sendAll left later
    (outcome :: outcomes, last)

/-- Opens a push, sends the chunks one after another and finishes it, whatever comes of each. -/
def push (path : String) (mode : UInt32) (chunks : List Bytes) (mtime : UInt32)
    (connection : Connection) : Push :=
  let (opened, stream) := (openPush path mode).on connection
  let (sends, last) := sendAll stream chunks
  let (finished, left) := (finishPush mtime).on last
  { opened, sends, finished, left }

/-- What the device sends begins with a receipt that accepts the push. -/
def Accepts (reply : Bytes) : Prop :=
  8 ≤ reply.length ∧ reply.take 4 = Bytes.ofString "OKAY"

theorem openPush_eq {path : String} (hpath : (Bytes.ofString path).length < Bytes.limit 4)
    (mode : UInt32) : openPush path mode = writeRaw (pushRequest path mode) :=
  if_pos hpath

theorem on_sendChunk_of_takes {connection : Connection} {chunk : Bytes}
    (hsize : chunk.length ≤ maxData) (htakes : connection.Takes (dataFrame chunk)) :
    (sendChunk chunk).on connection = (.ok (), connection.taking (dataFrame chunk)) := by
  rw [sendChunk, if_pos hsize]
  exact on_writeRaw_of_takes htakes

/-- A chunk that is too large, or that the peer does not take, closes the connection. -/
theorem on_sendChunk_of_not_takes {connection : Connection} {chunk : Bytes}
    (hbad : ¬ (chunk.length ≤ maxData ∧ connection.Takes (dataFrame chunk))) :
    ∃ error left, (sendChunk chunk).on connection = (.error error, left) ∧
      left.isOpen = false := by
  unfold sendChunk
  split
  · rename_i hsize
    exact on_writeRaw_of_not_takes fun htakes => hbad ⟨hsize, htakes⟩
  · exact ⟨_, _, rfl, rfl⟩

theorem disciplined_sendChunk (chunk : Bytes) : Disciplined (sendChunk chunk) :=
  .ite (.writeRaw _) (.fail _)

theorem failsClosed_sendChunk (chunk : Bytes) :
    FailsClosed (sendChunk chunk) ((if chunk.length ≤ maxData then none
      else some (.chunkTooLarge chunk.length maxData)).getD .closed) :=
  .bounded (.writeRaw _) _

/-! ## The chunks -/

theorem sendAll_append (connection : Connection) (before later : List Bytes) :
    sendAll connection (before ++ later) =
      ((sendAll connection before).1 ++ (sendAll (sendAll connection before).2 later).1,
        (sendAll (sendAll connection before).2 later).2) := by
  induction before generalizing connection with
  | nil =>
      rfl
  | cons chunk rest ih =>
      simp [sendAll, ih]

/-- On a closed connection every chunk fails, and nothing is written. -/
theorem sendAll_of_closed {connection : Connection} (hclosed : connection.isOpen = false)
    (chunks : List Bytes) :
    (∀ outcome ∈ (sendAll connection chunks).1, ∃ error, outcome = .error error) ∧
      (sendAll connection chunks).2 = connection := by
  induction chunks with
  | nil =>
      exact ⟨nofun, rfl⟩
  | cons chunk later ih =>
      have hkept := (disciplined_sendChunk chunk).keeps hclosed
      have hfail := failsClosed_sendChunk chunk connection hclosed
      simp only [sendAll, hkept, List.forall_mem_cons]
      exact ⟨⟨⟨_, hfail⟩, ih.1⟩, ih.2⟩

theorem sendAll_of_takes {connection : Connection} {chunks : List Bytes}
    (hsize : ∀ chunk ∈ chunks, chunk.length ≤ maxData)
    (htakes : connection.Takes (chunks.flatMap dataFrame)) :
    sendAll connection chunks =
      (chunks.map fun _ => .ok (), connection.taking (chunks.flatMap dataFrame)) := by
  induction chunks generalizing connection with
  | nil =>
      rw [List.flatMap_nil, Connection.taking_nil]
      rfl
  | cons chunk later ih =>
      rw [List.flatMap_cons, Connection.takes_append] at htakes
      rw [List.forall_mem_cons] at hsize
      simp only [sendAll, on_sendChunk_of_takes hsize.1 htakes.1, ih hsize.2 htakes.2,
        Connection.taking_append, List.map_cons, List.flatMap_cons]

/-- Only if every chunk fits a frame and the peer takes them all is the connection still open. -/
theorem takes_of_sendAll {connection : Connection} {chunks : List Bytes}
    (hopen : (sendAll connection chunks).2.isOpen = true) :
    (∀ chunk ∈ chunks, chunk.length ≤ maxData) ∧
      connection.Takes (chunks.flatMap dataFrame) := by
  induction chunks generalizing connection with
  | nil =>
      exact ⟨nofun, Connection.takes_nil.2 hopen⟩
  | cons chunk later ih =>
      by_cases hgood : chunk.length ≤ maxData ∧ connection.Takes (dataFrame chunk)
      · rw [sendAll, on_sendChunk_of_takes hgood.1 hgood.2] at hopen
        rcases ih hopen with ⟨hsize, htakes⟩
        exact ⟨List.forall_mem_cons.2 ⟨hgood.1, hsize⟩, Connection.takes_append.2 ⟨hgood.2, htakes⟩⟩
      · rcases on_sendChunk_of_not_takes hgood with ⟨error, left, hfail, hclosed⟩
        rw [sendAll, hfail] at hopen
        have hsame := (sendAll_of_closed hclosed later).2
        rw [hsame, hclosed] at hopen
        cases hopen

/-! ## The receipt -/

theorem finishPush_of_closed (mtime : UInt32) {connection : Connection}
    (hclosed : connection.isOpen = false) :
    (finishPush mtime).on connection = (.error .closed, connection) :=
  on_bind_of_error (on_writeRaw_of_closed _ hclosed) _

/-- A refusal that carries a text fails, whether the text can be read or not. -/
theorem refusal_not_ok (length : Nat) (connection : Connection) :
    ((do throw (.device (← readFailure length)) : Exchange Unit).on connection).1 ≠ .ok () := by
  rw [on_bind]
  split <;> nofun

/-- A push is finished well if the peer takes the closing frame and what it sends accepts it. -/
theorem finishPush_ok_iff (mtime : UInt32) (connection : Connection) :
    ((finishPush mtime).on connection).1 = .ok () ↔
      connection.Takes (doneFrame mtime) ∧ Accepts connection.source.bytes := by
  by_cases htakes : connection.Takes (doneFrame mtime)
  · rw [finishPush, on_bind_of_ok (on_writeRaw_of_takes htakes)]
    by_cases hlength : 8 ≤ connection.source.bytes.length
    · rcases on_readRaw_of_le (connection.taking (doneFrame mtime)) htakes.1 hlength with
        ⟨left, hread⟩
      rw [on_bind_of_ok hread]
      -- Of the eight bytes of the receipt only the tag decides.
      have htag : (connection.source.bytes.take 8).take 4 = connection.source.bytes.take 4 :=
        List.take_take
      have hletters : Tag.okay.bytes = Bytes.ofString "OKAY" := by decide
      dsimp only
      split
      · rename_i hokay
        have haccepts : Accepts connection.source.bytes :=
          ⟨hlength, htag.symm.trans ((eq_of_beq hokay).trans hletters)⟩
        exact ⟨fun _ => ⟨htakes, haccepts⟩, fun _ => rfl⟩
      · rename_i hrefused
        have hnot : ¬ Accepts connection.source.bytes := fun haccepts =>
          hrefused (beq_iff_eq.2 (htag.trans (haccepts.2.trans hletters.symm)))
        refine iff_of_false ?_ fun h => hnot h.2
        split
        · exact refusal_not_ok _ left
        · nofun
    · rcases on_readRaw_of_lt (connection.taking (doneFrame mtime))
        (Nat.lt_of_not_le hlength) with ⟨error, left, hread⟩
      rw [on_bind_of_error hread]
      exact ⟨nofun, fun h => absurd h.2.1 hlength⟩
  · rcases on_writeRaw_of_not_takes htakes with ⟨error, left, hfail, -⟩
    rw [finishPush, on_bind_of_error hfail]
    exact ⟨nofun, fun h => absurd h.1 htakes⟩

theorem silent_readFailure (length : Nat) : Silent (readFailure length) :=
  .bind (.readBlock _ _) fun _ => .bind .close fun _ => .pure _

/-- After the closing frame a push only reads. -/
theorem sink_finishPush (mtime : UInt32) (connection : Connection) :
    ((finishPush mtime).on connection).2.sink =
      ((writeRaw (doneFrame mtime)).on connection).2.sink := by
  refine Silent.sink_bind (fun _ => Silent.bind (Silent.readRaw 8) fun header => ?_) connection
  refine Silent.ite Silent.close (Silent.ite ?_ (Silent.fail _))
  exact Silent.bind (silent_readFailure _) fun _ _ => rfl

/-- The end of a push writes nothing but a beginning of the closing frame, and all of it if it
succeeds. -/
theorem writes_finishPush (mtime : UInt32) (connection : Connection) :
    ∃ written, written <+: doneFrame mtime ∧
      ((finishPush mtime).on connection).2.sink.sent = connection.sink.sent ++ written ∧
      (((finishPush mtime).on connection).1 = .ok () → written = doneFrame mtime) := by
  rw [sink_finishPush]
  rcases hwrite : (writeRaw (doneFrame mtime)).on connection with ⟨error | _, left⟩
  · rcases of_writeRaw_error hwrite with ⟨written, hwritten, hsent⟩
    rw [finishPush, on_bind_of_error hwrite]
    refine ⟨written, hwritten, hsent, ?_⟩
    intro hok
    cases hok
  · exact ⟨doneFrame mtime, List.prefix_refl _, (of_writeRaw_ok hwrite).2.2.2, fun _ => rfl⟩

/-! ## Whole pushes -/

section
variable {path : String} {mode : UInt32} {chunks : List Bytes} {mtime : UInt32}
  {connection : Connection}

/-- A push that the peer takes and accepts is written whole. -/
theorem push_of_takes (hpath : (Bytes.ofString path).length < Bytes.limit 4)
    (hsize : ∀ chunk ∈ chunks, chunk.length ≤ maxData)
    (htakes : connection.Takes (pushBytes path mode chunks mtime))
    (haccepts : Accepts connection.source.bytes) :
    let run := push path mode chunks mtime connection
    run.opened = .ok () ∧ run.sends = chunks.map (fun _ => .ok ()) ∧ run.finished = .ok () ∧
      run.left.sink = connection.sink.taking (pushBytes path mode chunks mtime) := by
  rw [pushBytes_eq, Connection.takes_append, Connection.takes_append] at htakes
  rcases htakes with ⟨hrequest, hframes, hdone⟩
  let last := (connection.taking (pushRequest path mode)).taking (chunks.flatMap dataFrame)
  have hfinished : ((finishPush mtime).on last).1 = .ok () :=
    (finishPush_ok_iff mtime last).2 ⟨hdone, haccepts⟩
  have hsink : ((finishPush mtime).on last).2.sink = (last.taking (doneFrame mtime)).sink := by
    rw [sink_finishPush, on_writeRaw_of_takes hdone]
  simp only [push, openPush_eq hpath, on_writeRaw_of_takes hrequest,
    sendAll_of_takes hsize hframes]
  refine ⟨trivial, trivial, hfinished, hsink.trans ?_⟩
  rw [pushBytes_eq, ← Sink.taking_append, ← Sink.taking_append]
  rfl

/-- A push finishes well only if the peer takes and accepts it. -/
theorem takes_of_finished (hpath : (Bytes.ofString path).length < Bytes.limit 4)
    (hfinished : (push path mode chunks mtime connection).finished = .ok ()) :
    (∀ chunk ∈ chunks, chunk.length ≤ maxData) ∧
      connection.Takes (pushBytes path mode chunks mtime) ∧
      Accepts connection.source.bytes := by
  let stream := ((openPush path mode).on connection).2
  let last := (sendAll stream chunks).2
  -- From the end backwards: the connection was open at the closing frame, so the chunks had been
  -- taken, and before them the request.
  rcases (finishPush_ok_iff mtime last).1 hfinished with ⟨hdone, haccepts⟩
  rcases takes_of_sendAll hdone.1 with ⟨hsize, hframes⟩
  have hrequest : connection.Takes (pushRequest path mode) := by
    refine takes_of_writeRaw ?_
    rw [← openPush_eq hpath]
    exact hframes.1
  have hstream : stream = connection.taking (pushRequest path mode) := by
    simp only [stream, openPush_eq hpath, on_writeRaw_of_takes hrequest]
  have hlast : last = stream.taking (chunks.flatMap dataFrame) := by
    simp only [last, sendAll_of_takes hsize hframes]
  rw [hlast, hstream] at hdone haccepts
  rw [hstream] at hframes
  rw [pushBytes_eq, Connection.takes_append, Connection.takes_append]
  exact ⟨hsize, ⟨hrequest, hframes, hdone⟩, haccepts⟩

/-- After a chunk that failed the rest of the push fails, too, and changes nothing. -/
theorem push_of_failed_chunk {before later : List Bytes} {chunk : Bytes} {error : Error}
    {after : Connection}
    (hfail : (sendChunk chunk).on (sendAll ((openPush path mode).on connection).2 before).2 =
      (.error error, after)) :
    (∀ outcome ∈ (sendAll after later).1, ∃ error, outcome = .error error) ∧
      (push path mode (before ++ chunk :: later) mtime connection).left = after ∧
      (push path mode (before ++ chunk :: later) mtime connection).finished = .error .closed := by
  have hclosed := (disciplined_sendChunk chunk).closes hfail
  rcases sendAll_of_closed hclosed later with ⟨hlater, hsame⟩
  have hlast : (sendAll ((openPush path mode).on connection).2 (before ++ chunk :: later)).2 =
      after := by
    simp only [sendAll_append, sendAll, hfail, hsame]
  simp only [push, hlast, finishPush_of_closed mtime hclosed, and_self, and_true]
  exact hlater

/-- A push is finished well exactly if the connection is open, every chunk fits a frame, the peer
takes all that is written and its receipt accepts it. Then opening it and every chunk have
succeeded, and what has been written is the whole push, from which its path, its mode, its time and
its content can be read. After a chunk that failed nothing more is written, and the push does not
finish. -/
theorem finishes_iff_whole (path : String) (hpath : (Bytes.ofString path).length < 0x100000000)
    (mode : UInt32) (chunks : List Bytes) (mtime : UInt32) (connection : Connection) :
    let run := push path mode chunks mtime connection
    let whole := pushBytes path mode chunks mtime
    (run.finished = .ok () ↔
        connection.isOpen = true ∧ (∀ chunk ∈ chunks, chunk.length ≤ 65536) ∧
          connection.sink.HasRoom whole.length ∧ Accepts connection.source.bytes) ∧
      (run.finished = .ok () →
        run.opened = .ok () ∧ run.sends = chunks.map (fun _ => .ok ()) ∧
          run.left.sink.sent = connection.sink.sent ++ whole ∧
          readUpload? whole =
            some { path, mode, flags := 0, content := chunks.flatten, mtime }) ∧
      ∀ before chunk later error after, chunks = before ++ chunk :: later →
        (sendChunk chunk).on (sendAll ((openPush path mode).on connection).2 before).2 =
          (.error error, after) →
        (∀ outcome ∈ (sendAll after later).1, ∃ error, outcome = .error error) ∧
          run.left = after ∧ run.finished = .error .closed := by
  intro run whole
  refine ⟨⟨fun hfinished => ?_, ?_⟩, fun hfinished => ?_, ?_⟩
  · rcases takes_of_finished hpath hfinished with ⟨hsize, htakes, haccepts⟩
    exact ⟨htakes.1, hsize, htakes.2, haccepts⟩
  · rintro ⟨hopen, hsize, hroom, haccepts⟩
    exact (push_of_takes hpath hsize ⟨hopen, hroom⟩ haccepts).2.2.1
  · rcases takes_of_finished hpath hfinished with ⟨hsize, htakes, haccepts⟩
    rcases push_of_takes hpath hsize htakes haccepts with ⟨hopened, hsends, -, hsink⟩
    exact ⟨hopened, hsends, congrArg Sink.sent hsink,
      readUpload?_pushBytes hpath mode hsize mtime⟩
  · rintro before chunk later error after rfl hfail
    exact push_of_failed_chunk hfail

def acceptingPeer (room : Option Nat) : Connection :=
  .ofPeer ⟨[Bytes.ofString "OKAY" ++ Bytes.ofWord32 0], .finished⟩ ⟨[], room, .text "broken pipe"⟩

/-- Two chunks are pushed whole where there is room for them. Where there is none for the second
one, the push does not finish, though the receipt accepts it. -/
theorem finishes_iff_whole_twoChunks :
    let run (room : Option Nat) :=
      push "/tmp/out" 420 [[0x61, 0x62], [0x63]] 1700000000 (acceptingPeer room)
    let whole := pushBytes "/tmp/out" 420 [[0x61, 0x62], [0x63]] 1700000000
    (Bytes.ofString "/tmp/out").length < 0x100000000 ∧
      ((run none).finished = .ok () ∧ (run none).opened = .ok () ∧
        (run none).sends = [.ok (), .ok ()] ∧ (run none).left.sink.sent = whole ∧
        readUpload? whole = some ⟨"/tmp/out", 420, 0, [0x61, 0x62, 0x63], 1700000000⟩) ∧
      (run (some 40)).left.sink.sent = whole.take 40 ∧
      (run (some 40)).finished = .error .closed := by
  intro run whole
  have hpath : (Bytes.ofString "/tmp/out").length < 0x100000000 := by decide
  have hlaw (room : Option Nat) := finishes_iff_whole "/tmp/out" hpath 420 [[0x61, 0x62], [0x63]]
    1700000000 (acceptingPeer room)
  have hfinished := (hlaw none).1.2 ⟨rfl, by decide, nofun, by decide, by decide⟩
  have hbroken := (hlaw (some 40)).2.2 [[0x61, 0x62]] [0x63] [] (.io (.text "broken pipe")) _
    rfl rfl
  refine ⟨hpath, ⟨hfinished, (hlaw none).2.1 hfinished⟩, ?_, hbroken.2.2⟩
  rw [hbroken.2.1]
  decide

end

end EmulatorHost.Adb.Sync
