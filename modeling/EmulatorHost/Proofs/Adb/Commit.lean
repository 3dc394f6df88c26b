import EmulatorHost.Proofs.Adb.Handshake
import EmulatorHost.Proofs.Adb.Push

/-!
# Whole uploads

A whole upload switches a connection to the file service, asks for the path, gives the chunks and
closes the push; the closing frame is what commits it. An upload writes nothing but a beginning of
its own bytes, and it succeeds exactly if the peer takes all of them and accepts every step
(`writes_upload`, `upload_ok_iff`). From the bytes that were sent it can be told what they commit
(`commits_of_given`).
-/

namespace EmulatorHost.Adb.Client

open Sync Exchange

/-! ## What is sent -/

/-- All that is sent for an upload: both switches, and the push. -/
def uploadBytes (path : String) (mode : UInt32) (chunks : List Bytes) (mtime : UInt32) : Bytes :=
  Bytes.ofString "0014host:transport-local0005sync:" ++ pushBytes path mode chunks mtime

/-- With these bytes the device has got an upload up to the closing frame, which commits it. -/
def Commits (sent : Bytes) (path : String) (mode : UInt32) (chunks : List Bytes)
    (mtime : UInt32) : Prop :=
  (Bytes.ofString path).length < 0x100000000 ∧ (∀ chunk ∈ chunks, chunk.length < 0x100000000) ∧
    uploadBytes path mode chunks mtime <+: sent

/-- All that may be given to the device for a push, with the closing frame if it is closed; a path
that does not fit its length field is not asked for. -/
def givenBytes (path : String) (mode : UInt32) (chunks : List Bytes) (closing : Option UInt32) :
    Bytes :=
  syncRequests ++
    if (Bytes.ofString path).length < 0x100000000 then
      pushRequest path mode ++ (chunks.flatMap dataFrame ++ closing.elim [] doneFrame)
    else []

section
variable {path : String} {mode : UInt32} {chunks : List Bytes} {mtime : UInt32}

theorem uploadBytes_eq (path : String) (mode : UInt32) (chunks : List Bytes) (mtime : UInt32) :
    uploadBytes path mode chunks mtime = syncRequests ++
      (pushRequest path mode ++ (chunks.flatMap dataFrame ++ doneFrame mtime)) := by
  rw [uploadBytes, ← syncRequests_eq, pushBytes_eq]

theorem givenBytes_some (hpath : (Bytes.ofString path).length < 0x100000000) :
    givenBytes path mode chunks (some mtime) = uploadBytes path mode chunks mtime := by
  rw [givenBytes, if_pos hpath, uploadBytes_eq, Option.elim_some]

theorem givenBytes_none (hpath : (Bytes.ofString path).length < 0x100000000) :
    givenBytes path mode chunks none =
      syncRequests ++ pushRequest path mode ++ chunks.flatMap dataFrame := by
  rw [givenBytes, if_pos hpath, Option.elim_none, List.append_nil, List.append_assoc]

theorem givenBytes_append (hpath : (Bytes.ofString path).length < 0x100000000) :
    givenBytes path mode chunks none ++ doneFrame mtime = uploadBytes path mode chunks mtime := by
  rw [givenBytes_none hpath, uploadBytes_eq]
  simp only [List.append_assoc]

theorem begins_givenBytes (closing : Option UInt32) :
    givenBytes path mode chunks none <+: givenBytes path mode chunks closing := by
  unfold givenBytes
  rw [List.prefix_append_right_inj]
  split
  · rw [List.prefix_append_right_inj, List.prefix_append_right_inj]
    exact List.nil_prefix
  · exact List.prefix_refl _

/-- What is given for a push commits nothing but this push, and only if it is closed. -/
theorem commits_of_given {sent : Bytes} {path' : String} {mode' : UInt32} {chunks' : List Bytes}
    {closing : Option UInt32} (hsize : ∀ chunk ∈ chunks, chunk.length ≤ 65536)
    (hsent : sent <+: givenBytes path mode chunks closing)
    (hcommits : Commits sent path' mode' chunks' mtime) :
    (path' = path ∧ mode' = mode ∧ chunks' = chunks ∧ closing = some mtime) ∧
      sent = uploadBytes path mode chunks mtime := by
  rcases hcommits with ⟨hpath', hsize', more, hmore⟩
  rcases hsent with ⟨rest, hrest⟩
  have hbound : ∀ chunk ∈ chunks, chunk.length < Bytes.limit 4 := by
    intro chunk hchunk
    exact Nat.lt_of_le_of_lt (hsize chunk hchunk) (by decide)
  have hwhole : uploadBytes path' mode' chunks' mtime ++ (more ++ rest) =
      givenBytes path mode chunks closing := by
    rw [← List.append_assoc, hmore, hrest]
  -- Both begin with the switches, and after them each part says where it ends.
  rw [uploadBytes_eq, givenBytes, List.append_assoc] at hwhole
  have hpush := List.append_cancel_left hwhole
  split at hpush
  · rename_i hpath
    rw [List.append_assoc, List.append_assoc] at hpush
    rcases pushRequest_append_inj hpath' hpath hpush with ⟨rfl, rfl, hframes⟩
    rcases frames_append_inj hsize' hbound hframes with ⟨rfl, rfl, hnothing⟩
    refine ⟨⟨rfl, rfl, rfl, rfl⟩, ?_⟩
    rw [← hmore, (List.append_eq_nil_iff.mp hnothing).1, List.append_nil]
  · -- Nothing follows the switches, so there is no closing frame.
    simp [doneFrame, Tag.bytes] at hpush

end

/-! ## The steps before the end -/

/-- The steps on the device's connection before the end of a push: it is opened, and gets its chunks
one after another. -/
def carry (path : String) (mode : UInt32) (chunks : List Bytes) : Exchange Unit := do
  openPush path mode
  chunks.forM sendChunk

/-- Before its end a push succeeds exactly if its path and its chunks fit, the peer takes what is
given, and the daemon accepts both switches. -/
theorem trades_carry {path : String} (hpath : (Bytes.ofString path).length < 0x100000000)
    (mode : UInt32) (chunks : List Bytes) :
    Trades (carry path mode chunks) (∀ chunk ∈ chunks, chunk.length ≤ 65536)
      (givenBytes path mode chunks none) (statusOkay ++ statusOkay) := by
  have hrequest : Trades (Sync.openPush path mode) True (pushRequest path mode) [] := by
    rw [openPush_eq hpath]
    exact .writeRaw _
  have hchunk (chunk : Bytes) :
      Trades (sendChunk chunk) (chunk.length ≤ 65536) (dataFrame chunk) [] := by
    have hguarded : Trades (sendChunk chunk) (chunk.length ≤ maxData ∧ True) (dataFrame chunk) [] :=
      .guarded (.writeRaw _) (.fail _) nofun
    exact hguarded.congr (and_iff_left trivial)
  have hboth := (trades_openSync.bind hrequest).bind (.forM hchunk chunks)
  rw [List.append_nil, List.append_nil] at hboth
  rw [givenBytes_none hpath]
  exact hboth.congr (by simp only [true_and])

/-- A path that does not fit is not asked for, and ends the push. -/
theorem trades_openPush_of_long {path : String}
    (hpath : ¬ (Bytes.ofString path).length < 0x100000000) (mode : UInt32) :
    Trades (openPush path mode) False syncRequests (statusOkay ++ statusOkay) := by
  have hrequest : Trades (Sync.openPush path mode) False [] [] := by
    have hlong : Sync.openPush path mode = throw (.framing
        ("path of " ++ toString (Bytes.ofString path).length ++ " bytes is too long")) :=
      if_neg hpath
    rw [hlong]
    exact .refused (.throw _) nofun
  have hboth := trades_openSync.bind hrequest
  rw [List.append_nil, List.append_nil] at hboth
  exact hboth.congr (by simp only [and_false])

theorem fits_of_carry_ok {path : String} {mode : UInt32} {chunks : List Bytes}
    {connection left : Connection} (hopen : connection.isOpen = true)
    (hok : (carry path mode chunks).on connection = (.ok (), left)) :
    (Bytes.ofString path).length < 0x100000000 := by
  refine Classical.byContradiction fun hlong => ?_
  rcases of_bind_ok hok with ⟨_, opened, hopened, -⟩
  exact ((trades_openPush_of_long hlong mode).demands hopen hopened).1

/-- Before its end a push writes nothing but a beginning of what it may give. -/
theorem writes_carry (path : String) (mode : UInt32) (chunks : List Bytes)
    {connection : Connection} (hopen : connection.isOpen = true) :
    ∃ written, written <+: givenBytes path mode chunks none ∧
      ((carry path mode chunks).on connection).2.sink.sent = connection.sink.sent ++ written := by
  by_cases hpath : (Bytes.ofString path).length < 0x100000000
  · exact (trades_carry hpath mode chunks).writes hopen
  · have htrades := trades_openPush_of_long hpath mode
    rcases hrun : (openPush path mode).on connection with ⟨error | _, left⟩
    · have hwritten := htrades.writes hopen
      rw [hrun] at hwritten
      rw [carry, on_bind_of_error hrun, givenBytes, if_neg hpath, List.append_nil]
      exact hwritten
    · exact absurd (htrades.demands hopen hrun).1 id

/-! ## Whole uploads -/

def upload (path : String) (mode : UInt32) (chunks : List Bytes) (mtime : UInt32) :
    Exchange Unit := do
  carry path mode chunks
  finishPush mtime

section
variable {path : String} {mode : UInt32} {chunks : List Bytes} {mtime : UInt32}
  {connection : Connection}

theorem upload_ok_iff (hsize : ∀ chunk ∈ chunks, chunk.length ≤ 65536)
    (hopen : connection.isOpen = true) :
    ((upload path mode chunks mtime).on connection).1 = .ok () ↔
      (Bytes.ofString path).length < 0x100000000 ∧
        connection.sink.HasRoom (uploadBytes path mode chunks mtime).length ∧
        ∃ receipt, connection.source.bytes =
          Bytes.ofString "OKAY" ++ Bytes.ofString "OKAY" ++ receipt ∧ Accepts receipt := by
  rw [ofString_okay]
  constructor
  · intro hok
    rcases hrun : (upload path mode chunks mtime).on connection with ⟨_ | _, left⟩
    · rw [hrun] at hok
      cases hok
    · rcases of_bind_ok hrun with ⟨_, middle, hcarry, hfinish⟩
      have hpath := fits_of_carry_ok hopen hcarry
      rcases (trades_carry hpath mode chunks).demands hopen hcarry with
        ⟨-, htakes, receipt, hbytes, hmiddle⟩
      rcases (finishPush_ok_iff mtime middle).mp (congrArg Prod.fst hfinish) with
        ⟨hdone, haccepts⟩
      -- The closing frame was taken after all the rest, so there was room for both.
      have hroom : (connection.taking (givenBytes path mode chunks none)).Takes
          (doneFrame mtime) := by
        refine ⟨hopen, ?_⟩
        rw [← hmiddle.sink]
        exact hdone.2
      have hwhole := Connection.takes_append.mpr ⟨htakes, hroom⟩
      rw [givenBytes_append hpath] at hwhole
      rw [hmiddle.bytes] at haccepts
      exact ⟨hpath, hwhole.2, receipt, hbytes, haccepts⟩
  · rintro ⟨hpath, hroom, receipt, hbytes, haccepts⟩
    have hwhole : connection.Takes (uploadBytes path mode chunks mtime) := ⟨hopen, hroom⟩
    rw [← givenBytes_append hpath, Connection.takes_append] at hwhole
    rcases (trades_carry hpath mode chunks).succeeds hsize hwhole.1 hbytes with
      ⟨middle, hmiddle, hcarry⟩
    rw [upload, on_bind_of_ok hcarry, finishPush_ok_iff, hmiddle.bytes]
    exact ⟨hmiddle.takes hwhole.2, haccepts⟩

/-- A whole upload writes nothing but a beginning of what it may give, and all of it if it
succeeds. -/
theorem writes_upload (path : String) (mode : UInt32) (chunks : List Bytes) (mtime : UInt32)
    (hopen : connection.isOpen = true) :
    ∃ written, written <+: givenBytes path mode chunks (some mtime) ∧
      ((upload path mode chunks mtime).on connection).2.sink.sent =
        connection.sink.sent ++ written ∧
      (((upload path mode chunks mtime).on connection).1 = .ok () →
        (Bytes.ofString path).length < 0x100000000 ∧
          written = uploadBytes path mode chunks mtime) := by
  rcases hcarry : (carry path mode chunks).on connection with ⟨error | _, middle⟩
  · rcases writes_carry path mode chunks hopen with ⟨written, hwritten, hsent⟩
    rw [hcarry] at hsent
    rw [upload, on_bind_of_error hcarry]
    exact ⟨written, hwritten.trans (begins_givenBytes _), hsent, nofun⟩
  · have hpath := fits_of_carry_ok hopen hcarry
    rcases (trades_carry hpath mode chunks).demands hopen hcarry with ⟨-, -, receipt, -, hmiddle⟩
    rcases writes_finishPush mtime middle with ⟨written, hwritten, hsent, hall⟩
    have hgiven : middle.sink.sent =
        connection.sink.sent ++ givenBytes path mode chunks none := congrArg Sink.sent hmiddle.sink
    rw [upload, on_bind_of_ok hcarry, givenBytes_some hpath, ← givenBytes_append hpath]
    refine ⟨givenBytes path mode chunks none ++ written,
      (List.prefix_append_right_inj _).mpr hwritten, ?_, fun hok => ⟨hpath, ?_⟩⟩
    · rw [hsent, hgiven, List.append_assoc]
    · rw [hall hok]

end

end EmulatorHost.Adb.Client
