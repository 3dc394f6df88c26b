import EmulatorHost.Proofs.Adb.Framing
import EmulatorHost.Proofs.Adb.Refusal

/-!
# Pulls

What a pull makes of the bytes that the device sends, whatever they are: the payloads of the data
frames that they begin with, then one last result, and after it the pull is closed. The last result
says that the transfer is complete exactly if the header of a closing frame comes there. The main
statement is `receives_whole_frames`.
-/

namespace EmulatorHost.Adb.Sync

open Exchange

structure Chunk where
  bytes : Bytes
  fits : bytes.length ≤ 65536

def Chunk.frame (chunk : Chunk) : Bytes :=
  Bytes.ofString "DATA" ++ Bytes.leBytes 4 chunk.bytes.length ++ chunk.bytes

/-- The header of a closing frame comes first. -/
def Completes (bytes : Bytes) : Prop :=
  8 ≤ bytes.length ∧ bytes.take 4 = Bytes.ofString "DONE"

/-! ## Headers -/

theorem exists_header {bytes : Bytes} (hlength : 8 ≤ bytes.length) :
    ∃ letters number rest, letters.length = 4 ∧ number.length = 4 ∧
      bytes = letters ++ number ++ rest := by
  rcases Bytes.exists_front hlength with ⟨header, rest, hheader, hbytes⟩
  have hfour : 4 ≤ header.length := by omega
  rcases Bytes.exists_front hfour with ⟨letters, number, hletters, hparts⟩
  have hnumber : number.length = 4 := by
    have hsum := congrArg List.length hparts
    rw [List.length_append] at hsum
    omega
  exact ⟨letters, number, rest, hletters, hnumber, by rw [hbytes, hparts]⟩

theorem completes_iff {letters number rest : Bytes} (hletters : letters.length = 4)
    (hnumber : number.length = 4) :
    Completes (letters ++ number ++ rest) ↔ letters = Tag.done.bytes := by
  have hdone : Bytes.ofString "DONE" = Tag.done.bytes := by decide
  have htake : (letters ++ number ++ rest).take 4 = letters := by
    rw [List.append_assoc, List.take_left' hletters]
  have hlength : 8 ≤ (letters ++ number ++ rest).length := by
    simp only [List.length_append]
    omega
  rw [Completes, htake, hdone]
  exact ⟨fun h => h.2, fun h => ⟨hlength, h⟩⟩

theorem frame_eq (chunk : Chunk) :
    chunk.frame = Tag.data.bytes ++ Bytes.leBytes 4 chunk.bytes.length ++ chunk.bytes := by
  have hdata : Bytes.ofString "DATA" = Tag.data.bytes := by decide
  rw [Chunk.frame, hdata]

/-- A data header that announces a payload in bounds, and the payload, are a frame. -/
theorem frame_of_payload {number payload : Bytes} (hnumber : number.length = 4)
    (hpayload : payload.length = Bytes.leValue number) (hfits : payload.length ≤ 65536) :
    Tag.data.bytes ++ number ++ payload = Chunk.frame ⟨payload, hfits⟩ := by
  have hsame : Bytes.leBytes 4 payload.length = number := by
    rw [hpayload, ← hnumber]
    exact Bytes.leBytes_leValue number
  rw [frame_eq, hsame]

theorem leValue_chunk_length (chunk : Chunk) :
    Bytes.leValue (Bytes.leBytes 4 chunk.bytes.length) = chunk.bytes.length := by
  have hbound : 65536 < Bytes.limit 4 := by decide
  exact leValue_length (Nat.lt_of_le_of_lt chunk.fits hbound)

theorem selfDelimiting_frame : Bytes.SelfDelimiting Chunk.frame where
  nonempty := by
    intro chunk hempty
    rw [frame_eq] at hempty
    simp [Tag.bytes] at hempty
  inj := by
    intro one other after rest hsame
    rw [frame_eq, frame_eq] at hsame
    have hlimit : 65536 < Bytes.limit 4 := by decide
    have hfits (chunk : Chunk) := Nat.lt_of_le_of_lt chunk.fits hlimit
    rcases pathRequest_append_inj (hfits one) (hfits other) hsame with ⟨hbytes, hafter⟩
    cases one
    cases other
    cases hbytes
    exact ⟨rfl, hafter⟩

/-! ## One receive -/

variable {connection : Connection}

theorem on_receive_of_frame (hopen : connection.isOpen = true) {chunk : Chunk} {rest : Bytes}
    (hbytes : connection.source.bytes = chunk.frame ++ rest) :
    ∃ left, connection.Onward rest left ∧
      receive.on connection = (.ok (some chunk.bytes), left) := by
  let header := Tag.data.bytes ++ Bytes.leBytes 4 chunk.bytes.length
  have hheader : connection.source.bytes = header ++ (chunk.bytes ++ rest) := by
    rw [hbytes, frame_eq, List.append_assoc]
  have hlength : header.length = 8 := by simp [header, Tag.bytes]
  have htag : header.take 4 = Tag.data.bytes := List.take_left' rfl
  have hnumber : Bytes.leValue (header.drop 4) = chunk.bytes.length := by
    have hdrop : header.drop 4 = Bytes.leBytes 4 chunk.bytes.length := List.drop_left' rfl
    rw [hdrop]
    exact leValue_chunk_length chunk
  rcases on_readRaw_of_append hopen hheader hlength with ⟨middle, hmiddle, hread⟩
  rcases on_readBlock_of_append hmiddle.isOpen hmiddle.bytes chunk.fits with
    ⟨left, hleft, hblock⟩
  refine ⟨left, hmiddle.trans hleft, ?_⟩
  have hdata : (Tag.data.bytes == Tag.data.bytes) = true := beq_self_eq_true _
  rw [receive, on_bind_of_ok hread, htag, hnumber, receiveBody, if_pos hdata]
  exact on_bind_of_ok hblock _

/-- A refusal fails, whether its text can be read or not. -/
theorem breaks_refusal {α : Type} (hopen : connection.isOpen = true) (length : Nat) :
    Breaks (do throw (.device (← readFailure length)) : Exchange α) connection := by
  rcases on_readFailure hopen length with ⟨left, hfail, hclosed, -⟩
  exact ⟨_, left, hfail, refusal_ne_closed _ _ _, hclosed⟩

/-- After a header that closes nothing, and begins no data frame, a pull breaks. -/
theorem breaks_receiveBody (hopen : connection.isOpen = true) {letters number : Bytes}
    (hnumber : number.length = 4)
    (hended : ∀ (chunk : Chunk) after,
      letters ++ number ++ connection.source.bytes ≠ chunk.frame ++ after)
    (hdone : letters ≠ Tag.done.bytes) :
    Breaks (receiveBody letters (Bytes.leValue number)) connection := by
  rw [receiveBody]
  by_cases hdata : letters = Tag.data.bytes
  · have hblock : Breaks (readBlock (Bytes.leValue number) maxData) connection := by
      refine .readBlock hopen fun hpayload => ?_
      -- A payload that is in bounds and there would make this a frame.
      let payload := connection.source.bytes.take (Bytes.leValue number)
      let after := connection.source.bytes.drop (Bytes.leValue number)
      have htake : payload.length = Bytes.leValue number := List.length_take_of_le hpayload.2
      have hfits : payload.length ≤ 65536 := htake.symm ▸ hpayload.1
      refine hended ⟨payload, hfits⟩ after ?_
      calc letters ++ number ++ connection.source.bytes
          = Tag.data.bytes ++ number ++ (payload ++ after) := by
            rw [hdata, List.take_append_drop]
        _ = Chunk.frame ⟨payload, hfits⟩ ++ after := by
            rw [← List.append_assoc, frame_of_payload hnumber htake hfits]
    rw [if_pos (beq_iff_eq.2 hdata)]
    exact hblock.bind _
  · rw [if_neg (mt eq_of_beq hdata), if_neg (mt eq_of_beq hdone)]
    split
    · exact breaks_refusal hopen _
    · refine .fail ?_ _
      simp

/-- Where no further data frame comes, a pull ends: with success if the header of a closing frame
comes, and otherwise by breaking the connection. -/
theorem receive_of_ended (hopen : connection.isOpen = true)
    (hended : ∀ (chunk : Chunk) after, connection.source.bytes ≠ chunk.frame ++ after) :
    (Completes connection.source.bytes ∧
        ∃ left, receive.on connection = (.ok none, left) ∧ left.isOpen = false) ∨
      (¬ Completes connection.source.bytes ∧ Breaks receive connection) := by
  by_cases hlength : 8 ≤ connection.source.bytes.length
  · rcases exists_header hlength with ⟨letters, number, rest, hletters, hnumber, hbytes⟩
    have hheader : (letters ++ number).length = 8 := by
      rw [List.length_append]
      omega
    have htag : (letters ++ number).take 4 = letters := List.take_left' hletters
    have hdrop : (letters ++ number).drop 4 = number := List.drop_left' hletters
    rcases on_readRaw_of_append hopen hbytes hheader with ⟨middle, hmiddle, hread⟩
    rw [hbytes, ← hmiddle.bytes] at hended
    rw [hbytes, completes_iff hletters hnumber]
    by_cases hdone : letters = Tag.done.bytes
    · refine Or.inl ⟨hdone, { middle with isOpen := false }, ?_, rfl⟩
      have hnotData : ¬ (Tag.done.bytes == Tag.data.bytes) = true := by decide
      rw [receive, on_bind_of_ok hread, htag, hdone, receiveBody, if_neg hnotData,
        if_pos (beq_self_eq_true _)]
      rfl
    · have hbody := breaks_receiveBody hmiddle.isOpen hnumber hended hdone
      refine Or.inr ⟨hdone, Breaks.of_ok hread ?_⟩
      rw [htag, hdrop]
      exact hbody
  · have hshort : connection.source.bytes.length < 8 := Nat.lt_of_not_le hlength
    exact Or.inr ⟨fun hcomplete => hlength hcomplete.1, (Breaks.readRaw hopen hshort).bind _⟩

/-! ## Whole pulls -/

theorem atTurn_receive_of_closed (hclosed : connection.isOpen = false) (turns : Nat) :
    receive.atTurn connection turns = .error .closed := by
  have hstuck : receive.on connection = (.error .closed, connection) :=
    on_bind_of_error (on_readRaw_of_closed 8 hclosed) _
  exact atTurn_of_stuck hstuck turns

/-- The results of a pull are these chunks, then this last result, and then that it is closed. -/
def Results (connection : Connection) (chunks : List Chunk) (last : Except Error (Option Bytes)) :
    Prop :=
  ∀ turns, receive.atTurn connection turns =
    if hchunk : turns < chunks.length then .ok (some chunks[turns].bytes)
    else if turns = chunks.length then last
    else .error .closed

theorem results_nil {last : Except Error (Option Bytes)} {left : Connection}
    (hlast : receive.on connection = (last, left)) (hclosed : left.isOpen = false) :
    Results connection [] last := by
  intro turns
  cases turns with
  | zero =>
      rw [atTurn_zero, hlast]
      rfl
  | succ turns =>
      rw [atTurn_succ, hlast, atTurn_receive_of_closed hclosed turns]
      rfl

theorem results_cons {chunk : Chunk} {chunks : List Chunk} {last : Except Error (Option Bytes)}
    {left : Connection} (hfirst : receive.on connection = (.ok (some chunk.bytes), left))
    (hlater : Results left chunks last) : Results connection (chunk :: chunks) last := by
  intro turns
  cases turns with
  | zero =>
      rw [atTurn_zero, hfirst]
      rfl
  | succ turns =>
      rw [atTurn_succ, hfirst, hlater turns]
      simp only [List.length_cons, Nat.add_lt_add_iff_right, Nat.add_right_cancel_iff,
        List.getElem_cons_succ]

/-- A pull yields the frames that the bytes to come begin with, and ends where they end. -/
theorem exists_results (hopen : connection.isOpen = true) {chunks : List Chunk} {rest : Bytes}
    (hsplit : Bytes.Split Chunk.frame connection.source.bytes chunks rest) :
    ∃ last, Results connection chunks last ∧ (∀ chunk, last ≠ .ok (some chunk)) ∧
      last ≠ .error .closed ∧ (last = .ok none ↔ Completes rest) := by
  -- On the frames, one a receive; what is left in the end begins with none.
  induction chunks generalizing connection with
  | nil =>
      have hrest : connection.source.bytes = rest := hsplit.bytes_eq
      have hended : ∀ (chunk : Chunk) after, connection.source.bytes ≠ chunk.frame ++ after :=
        hrest ▸ hsplit.ended
      rcases receive_of_ended hopen hended with ⟨hcomplete, left, hdone, hclosed⟩ | ⟨hnot, hbreaks⟩
      · rw [hrest] at hcomplete
        exact ⟨_, results_nil hdone hclosed, nofun, nofun, fun _ => hcomplete, fun _ => rfl⟩
      · rw [hrest] at hnot
        rcases hbreaks with ⟨error, left, hfail, herror, hclosed⟩
        refine ⟨_, results_nil hfail hclosed, nofun, ?_, nofun, fun hcomplete => ?_⟩
        · rintro ⟨⟩
          exact herror rfl
        · exact absurd hcomplete hnot
  | cons chunk chunks ih =>
      have hbytes : connection.source.bytes =
          chunk.frame ++ (chunks.flatMap Chunk.frame ++ rest) := by
        rw [hsplit.bytes_eq, List.flatMap_cons, List.append_assoc]
      rcases on_receive_of_frame hopen hbytes with ⟨left, hleft, hfirst⟩
      rcases ih hleft.isOpen ⟨hleft.bytes, hsplit.ended⟩ with ⟨last, hlater, hlast⟩
      exact ⟨last, results_cons hfirst hlater, hlast⟩

/-- Where a closing frame comes, no data frame comes. -/
theorem split_of_completes (chunks : List Chunk) {rest : Bytes} (hcomplete : Completes rest) :
    Bytes.Split Chunk.frame (chunks.flatMap Chunk.frame ++ rest) chunks rest where
  bytes_eq := rfl
  ended := by
    intro chunk after hrest
    have hdata : Completes (chunk.frame ++ after) := hrest ▸ hcomplete
    rw [frame_eq, List.append_assoc,
      completes_iff rfl (Bytes.length_leBytes 4 chunk.bytes.length)] at hdata
    revert hdata
    decide

theorem Completes.append {bytes : Bytes} (hcomplete : Completes bytes) (more : Bytes) :
    Completes (bytes ++ more) := by
  refine ⟨?_, ?_⟩
  · rw [List.length_append]
    exact Nat.le_add_right_of_le hcomplete.1
  · rw [List.take_append_of_le_length (Nat.le_trans (by decide) hcomplete.1)]
    exact hcomplete.2

/-- Where bytes of a complete transfer are missing, no closing frame comes after the data frames. -/
theorem not_completes_of_missing {bytes rest : Bytes} {chunks whole : List Chunk}
    {number missing : Bytes} (hsplit : Bytes.Split Chunk.frame bytes chunks rest)
    (hnumber : number.length = 4) (hmissing : missing ≠ [])
    (hwhole : bytes ++ missing = whole.flatMap Chunk.frame ++ (Bytes.ofString "DONE" ++ number)) :
    ¬ Completes rest := by
  intro hcomplete
  have hletters : (Bytes.ofString "DONE").length = 4 := by decide
  have hclosing : Completes (Bytes.ofString "DONE" ++ number) := by
    have hlength : 8 = (Bytes.ofString "DONE" ++ number).length := by
      rw [List.length_append, hletters, hnumber]
    exact ⟨Nat.le_of_eq hlength, List.take_left' hletters⟩
  -- The frame would close the whole transfer, too, at the same place, with bytes to spare.
  have hone := split_of_completes chunks (hcomplete.append missing)
  rw [← List.append_assoc, ← hsplit.bytes_eq, hwhole] at hone
  have hrest := (hone.unique selfDelimiting_frame (split_of_completes whole hclosing)).2
  have hlength := congrArg List.length hrest
  have hsome : 0 < missing.length := List.length_pos_iff.2 hmissing
  have hrestLength := hcomplete.1
  simp only [List.length_append, hletters, hnumber] at hlength
  omega

/-- Only the last result can be success. -/
theorem Results.last_eq {chunks : List Chunk} {last : Except Error (Option Bytes)}
    (hresults : Results connection chunks last) {turns : Nat}
    (hdone : receive.atTurn connection turns = .ok none) : last = .ok none := by
  rw [hresults turns] at hdone
  split at hdone
  · cases hdone
  · split at hdone
    · exact hdone
    · cases hdone

theorem received_of_opened {path : String} {connection stream : Connection}
    (hopened : (openPull path).on connection = (.ok (), stream)) :
    stream.isOpen = true ∧ stream.source = connection.source := by
  unfold openPull writePathRequest at hopened
  dsimp only at hopened
  split at hopened
  · rcases of_writeRaw_ok hopened with ⟨-, hopen, hsource, -⟩
    exact ⟨hopen, hsource⟩
  · cases hopened

/-- Once a pull is opened, its results are the payloads of the data frames with which the bytes of
the device begin, then one last result, and then that it is closed, however the bytes are cut into
segments. The last result is success exactly if the header of a closing frame follows those frames;
so a transfer of which bytes are missing is not taken for a complete one. -/
theorem receives_whole_frames (path : String) (connection stream : Connection)
    (hopened : (openPull path).on connection = (.ok (), stream)) :
    ∃ chunks rest last,
      Bytes.Split Chunk.frame connection.source.bytes chunks rest ∧
      Results stream chunks last ∧
      (∀ chunk, last ≠ .ok (some chunk)) ∧ last ≠ .error .closed ∧
      (last = .ok none ↔ Completes rest) ∧
      ∀ (whole : List Chunk) (number missing : Bytes), number.length = 4 → missing ≠ [] →
        connection.source.bytes ++ missing =
          whole.flatMap Chunk.frame ++ (Bytes.ofString "DONE" ++ number) →
        ∀ turns, receive.atTurn stream turns ≠ .ok none := by
  rcases received_of_opened hopened with ⟨hopen, hsource⟩
  rcases Bytes.exists_split selfDelimiting_frame connection.source.bytes with
    ⟨chunks, rest, hsplit⟩
  have hstream : Bytes.Split Chunk.frame stream.source.bytes chunks rest := hsource ▸ hsplit
  rcases exists_results hopen hstream with ⟨last, hresults, hchunk, herror, hlast⟩
  refine ⟨chunks, rest, last, hsplit, hresults, hchunk, herror, hlast, ?_⟩
  intro whole number missing hnumber hmissing hwhole turns hdone
  have hcomplete : Completes rest := hlast.1 (hresults.last_eq hdone)
  exact not_completes_of_missing hsplit hnumber hmissing hwhole hcomplete

/-- A pull from a device that sends these segments and then ends. -/
def openedOn (segments : List Bytes) : Except Error Unit × Connection :=
  (openPull "/tmp/out").on (.ofPeer ⟨segments, .finished⟩ .unlimited)

/-- A chunk of two bytes and the closing frame are received, though the segments cut both headers.
Without the last two bytes of the closing frame no receive ever says that the transfer is
complete. -/
theorem receives_whole_frames_cutHeader :
    let segments :=
      [[0x44, 0x41, 0x54], [0x41, 2, 0, 0, 0, 0x61], [0x62, 0x44, 0x4f, 0x4e, 0x45, 0, 0]]
    let cut := openedOn segments
    let complete := openedOn (segments ++ [[0, 0]])
    (receive.atTurn complete.2 0 = .ok (some [0x61, 0x62]) ∧
        receive.atTurn complete.2 1 = .ok none) ∧
      cut.1 = .ok () ∧ receive.atTurn cut.2 0 = .ok (some [0x61, 0x62]) ∧
      ∀ turns, receive.atTurn cut.2 turns ≠ .ok none := by
  intro segments cut complete
  have hlaw := receives_whole_frames "/tmp/out" (.ofPeer ⟨segments, .finished⟩ .unlimited) cut.2 rfl
  rcases hlaw with ⟨chunks, rest, last, -, -, -, -, -, hmissing⟩
  have hnever := hmissing [⟨[0x61, 0x62], by decide⟩] [0, 0, 0, 0] [0, 0] rfl nofun (by decide)
  exact ⟨⟨rfl, rfl⟩, rfl, rfl, hnever⟩

end EmulatorHost.Adb.Sync
