import EmulatorHost.Proofs.Adb.Reading
import EmulatorHost.Proofs.Adb.Room
import EmulatorHost.Proofs.Adb.Upload
import EmulatorHost.Status.Causes

/-!
# Refusals of the file service

The device refuses a pull, a stat or a push with a failing record, which announces the length of a
text, and the text. The three operations take it alike: they fail with the text, or for a length that
is out of bounds, or for a text that is cut off, and whichever it is the connection is closed. The
main statement is `refused_alike`.
-/

namespace EmulatorHost.Adb.Sync

open Exchange

/-- What a refusal comes to that announces a text of so many bytes, when these bytes follow. -/
def refusal (ending : Ending) (length : Nat) (rest : Bytes) : Error :=
  if length ≤ 65536 then
    if length ≤ rest.length then .device (Utf8.decodeLossy (rest.take length))
    else .io ending.shortRead
  else .protocol ("peer announced " ++ toString length ++ " bytes, limit is 65536")

variable {α : Type} {connection : Connection}

theorem refusal_ne_closed (ending : Ending) (length : Nat) (rest : Bytes) :
    refusal ending length rest ≠ .closed := by
  unfold refusal
  split
  · split <;> exact Error.noConfusion
  · exact Error.noConfusion

theorem on_readFailure (hopen : connection.isOpen = true) (length : Nat) :
    ∃ left, (do throw (.device (← readFailure length)) : Exchange α).on connection =
        (.error (refusal connection.source.ending length connection.source.bytes), left) ∧
      left.isOpen = false ∧
      (65536 < length → left.source.bytes = connection.source.bytes) := by
  by_cases hlong : 65536 < length
  · have hbound : " bytes, limit is " ++ toString maxFailLength = " bytes, limit is 65536" := by
      decide
    have hblock := on_readBlock_of_long hlong hbound connection
    refine ⟨{ connection with isOpen := false }, ?_, rfl, fun _ => rfl⟩
    rw [refusal, if_neg (Nat.not_le_of_lt hlong)]
    exact on_bind_of_error (on_bind_of_error hblock _) _
  -- Within the limit a block is read like any other, and the connection closed after it.
  have hlimit : length ≤ 65536 := Nat.le_of_not_lt hlong
  have hblock : readBlock length maxFailLength = readRaw length := if_pos hlimit
  by_cases hthere : length ≤ connection.source.bytes.length
  · rcases on_readRaw_of_le connection hopen hthere with ⟨left, hread⟩
    refine ⟨{ left with isOpen := false }, ?_, rfl, fun hmore => absurd hmore hlong⟩
    have htext : (readFailure length).on connection =
        (.ok (Utf8.decodeLossy (connection.source.bytes.take length)),
          { left with isOpen := false }) := by
      rw [readFailure, hblock, on_bind_of_ok hread]
      rfl
    rw [refusal, if_pos hlimit, if_pos hthere]
    exact on_bind_of_ok htext _
  · rcases on_readRaw_of_short hopen (Nat.lt_of_not_le hthere) with ⟨left, hread, hclosed⟩
    refine ⟨left, ?_, hclosed, fun hmore => absurd hmore hlong⟩
    rw [refusal, if_pos hlimit, if_neg hthere, readFailure, hblock]
    exact on_bind_of_error (on_bind_of_error hread _) _

/-- How an operation that writes `given` and then waits for a reply is refused. The record of the
reply is a tag, four bytes of a number, and `padding` more bytes, of which a refusal makes nothing. -/
structure Refuses (operation : Exchange α) (given : Bytes) (padding : Nat) : Prop where
  fails : ∀ (connection : Connection) (number filler rest : Bytes), connection.Takes given →
    number.length = 4 → filler.length = padding →
    connection.source.bytes = Bytes.ofString "FAIL" ++ number ++ filler ++ rest →
    ∃ left, operation.on connection =
        (.error (refusal connection.source.ending (Bytes.leValue number) rest), left) ∧
      left.isOpen = false ∧ (65536 < Bytes.leValue number → left.source.bytes = rest)
  cut : ∀ connection : Connection, connection.Takes given →
    connection.source.bytes.length < 8 + padding →
    ∃ left, operation.on connection = (.error (.io connection.source.ending.shortRead), left) ∧
      left.isOpen = false

theorem Refuses.of_reply {send : Exchange Unit} {body : Bytes → Exchange α} {given : Bytes}
    {size padding : Nat} (hsize : size = 8 + padding)
    (hsend : ∀ connection : Connection, connection.Takes given →
      send.on connection = (.ok (), connection.taking given))
    (hbody : ∀ number filler : Bytes, number.length = 4 → filler.length = padding →
      body (Tag.fail.bytes ++ number ++ filler) =
        (do throw (.device (← readFailure (Bytes.leValue number))))) :
    Refuses (do send; body (← readRaw size)) given padding where
  fails := by
    intro connection number filler rest htakes hnumber hfiller hbytes
    have htag : Bytes.ofString "FAIL" = Tag.fail.bytes := by decide
    have hrecord : (Tag.fail.bytes ++ number ++ filler).length = size := by
      simp [Tag.bytes, hnumber, hfiller, hsize]
      omega
    rw [htag] at hbytes
    -- The record is taken off as a whole, so what is left is the text and what comes after it.
    have hopen : (connection.taking given).isOpen = true := htakes.1
    rcases on_readRaw_of_append hopen hbytes hrecord with ⟨middle, hmiddle, hread⟩
    rcases on_readFailure hmiddle.isOpen (Bytes.leValue number) with
      ⟨left, hfail, hclosed, hunread⟩
    rw [hmiddle.ending, hmiddle.bytes] at hfail
    rw [hmiddle.bytes] at hunread
    refine ⟨left, ?_, hclosed, hunread⟩
    rw [on_bind_of_ok (hsend connection htakes), on_bind_of_ok hread,
      hbody number filler hnumber hfiller]
    exact hfail
  cut := by
    intro connection htakes hshort
    rw [← hsize] at hshort
    have hopen : (connection.taking given).isOpen = true := htakes.1
    rcases on_readRaw_of_short hopen hshort with ⟨left, hread, hclosed⟩
    refine ⟨left, ?_, hclosed⟩
    rw [on_bind_of_ok (hsend connection htakes)]
    exact on_bind_of_error hread _

theorem fail_parts (number : Bytes) :
    (Tag.fail.bytes ++ number ++ []).take 4 = Tag.fail.bytes ∧
      (Tag.fail.bytes ++ number ++ []).drop 4 = number := by
  rw [List.append_nil]
  exact ⟨rfl, rfl⟩

theorem refuses_receive : Refuses receive [] 0 := by
  -- A pull was asked for when it was opened: a receive writes nothing.
  have hreceive : receive = (pure () : Exchange Unit) >>= fun _ => receive := rfl
  rw [hreceive]
  unfold receive
  refine Refuses.of_reply rfl ?_ ?_
  · intro connection _
    rw [Connection.taking_nil]
    rfl
  · intro number filler _ hfiller
    have hparts := fail_parts number
    rw [List.eq_nil_of_length_eq_zero hfiller, hparts.1, hparts.2]
    rfl

theorem refuses_stat {path : String} (hpath : (Bytes.ofString path).length < 0x100000000)
    (followLinks : Bool) :
    Refuses (stat path followLinks)
      (pathRequest (if followLinks then .stat else .linkStat) (Bytes.ofString path)) 64 := by
  unfold stat
  refine Refuses.of_reply rfl ?_ ?_
  · intro connection htakes
    have hlength : (Bytes.ofString path).length < Bytes.limit 4 := hpath
    rw [writePathRequest, if_pos hlength, List.append_nil]
    exact on_writeRaw_of_takes htakes
  · intro number filler hnumber hfiller
    -- The length stands where another reply has its error number, which is read as a word.
    have hparts := header_parts .fail hnumber filler
    rw [hparts.1, hparts.2.1, ← Bytes.toNat_toWord32 hnumber]
    rfl

theorem refuses_finishPush (mtime : UInt32) : Refuses (finishPush mtime) (doneFrame mtime) 0 := by
  unfold finishPush
  refine Refuses.of_reply rfl ?_ ?_
  · intro connection htakes
    exact on_writeRaw_of_takes htakes
  · intro number filler _ hfiller
    have hparts := fail_parts number
    rw [List.eq_nil_of_length_eq_zero hfiller, hparts.1, hparts.2]
    rfl

/-- A pull, a stat and a push take a refusal alike, whatever length it announces and whatever follows;
the text of a refusal is told to remote callers as it is. -/
theorem refused_alike (path : String) (followLinks : Bool) (mtime : UInt32)
    (hpath : (Bytes.ofString path).length < 0x100000000) :
    Refuses receive [] 0 ∧
      Refuses (stat path followLinks)
        (pathRequest (if followLinks then .stat else .linkStat) (Bytes.ofString path)) 64 ∧
      Refuses (finishPush mtime) (doneFrame mtime) 0 ∧
      ∀ ending length rest, length ≤ 65536 → length ≤ rest.length →
        (refusal ending length rest).status =
          ⟨.internal, Utf8.decodeLossy (rest.take length)⟩ := by
  refine ⟨refuses_receive, refuses_stat hpath followLinks, refuses_finishPush mtime, ?_⟩
  intro ending length rest hlimit hthere
  rw [refusal, if_pos hlimit, if_pos hthere]
  rfl

/-- A refusal with the text `no`, one whose text would be too long, and one whose text is cut off. -/
theorem refused_alike_each :
    let pulling := Connection.ofPeer
      ⟨[Bytes.ofString "FAIL", [2, 0, 0, 0] ++ Bytes.ofString "no"], .finished⟩ .unlimited
    let stating := Connection.ofPeer
      ⟨[Bytes.ofString "FAIL", [1, 0, 1, 0], List.replicate 64 0, [7]], .finished⟩ .unlimited
    let pushing := Connection.ofPeer
      ⟨[Bytes.ofString "FAIL", [2, 0, 0, 0] ++ Bytes.ofString "n"], .failed (.code 104)⟩ .unlimited
    (Bytes.ofString "/x").length < 0x100000000 ∧
      (∃ left, receive.on pulling = (.error (.device "no"), left) ∧ left.isOpen = false) ∧
      (∃ left, (stat "/x" true).on stating =
          (.error (.protocol "peer announced 65537 bytes, limit is 65536"), left) ∧
        left.isOpen = false ∧ left.source.bytes = [7]) ∧
      ∃ left, (finishPush 5).on pushing = (.error (.io (.code 104)), left) ∧
        left.isOpen = false := by
  intro pulling stating pushing
  have hpath : (Bytes.ofString "/x").length < 0x100000000 := by decide
  rcases refused_alike "/x" true 5 hpath with ⟨hpull, hstat, hpush, -⟩
  have htext : refusal .finished 2 (Bytes.ofString "no") = .device "no" := by decide +kernel
  have hlimit : refusal .finished 65537 [7] =
      .protocol "peer announced 65537 bytes, limit is 65536" := by
    decide
  refine ⟨hpath, ?_, ?_, ?_⟩
  · rcases hpull.fails pulling [2, 0, 0, 0] [] (Bytes.ofString "no") ⟨rfl, nofun⟩ rfl rfl rfl with
      ⟨left, hfail, hclosed, -⟩
    refine ⟨left, ?_, hclosed⟩
    rw [← htext]
    exact hfail
  · rcases hstat.fails stating [1, 0, 1, 0] (List.replicate 64 0) [7] ⟨rfl, nofun⟩ rfl rfl rfl with
      ⟨left, hfail, hclosed, hunread⟩
    refine ⟨left, ?_, hclosed, hunread (by decide)⟩
    rw [← hlimit]
    exact hfail
  · rcases hpush.fails pushing [2, 0, 0, 0] [] (Bytes.ofString "n") ⟨rfl, nofun⟩ rfl rfl rfl with
      ⟨left, hfail, hclosed, -⟩
    exact ⟨left, hfail, hclosed⟩

end EmulatorHost.Adb.Sync
