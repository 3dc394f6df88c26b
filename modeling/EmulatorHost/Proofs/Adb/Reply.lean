import EmulatorHost.Proofs.Adb.Handshake
import EmulatorHost.Proofs.Adb.Messages

/-!
# What a request comes to

The daemon answers a request with a status of four bytes, and a status other than the accepting one
is followed by a message. `Answers` says by the bytes alone what a request comes to, also where they
end too early or no message can be made of them. The main statement is `sendCommand_by_answer`.
-/

namespace EmulatorHost.Adb.Exchange

/-! ## Bytes and what they come to -/

/-- The block is a message behind its length. -/
def Framed (block message : Bytes) : Prop :=
  ∃ digits, block = digits ++ message ∧ Announces digits message.length

inductive Unframed (ending : Ending) : Bytes → Error → Prop where
  -- The bytes do not begin with a message, and reading one fails with this error.
  | missing {bytes : Bytes} (hshort : bytes.length < 4) :
      Unframed ending bytes (.io ending.shortRead)
  | unreadable {digits : Bytes} (hfour : digits.length = 4)
      (hunreadable : ∀ length, ¬ Announces digits length) (rest : Bytes) :
      Unframed ending (digits ++ rest)
        (.framing ("invalid length prefix " ++ Text.quoted (Utf8.decodeLossy digits)))
  | cut {digits rest : Bytes} {length : Nat} (hannounces : Announces digits length)
      (hshort : rest.length < length) : Unframed ending (digits ++ rest) (.io ending.shortRead)

/-- What a request comes to when the daemon answers with these bytes. -/
inductive Answers (ending : Ending) : Bytes → Except Error Unit → Prop where
  | accepted (rest : Bytes) : Answers ending (statusOkay ++ rest) (.ok ())
  | refused {block message : Bytes} (hframed : Framed block message) (rest : Bytes) :
      Answers ending (statusFail ++ (block ++ rest)) (.error (.server (Utf8.decodeLossy message)))
  | unexpected {status block message : Bytes} (hfour : status.length = 4)
      (hokay : status ≠ statusOkay) (hfail : status ≠ statusFail)
      (hframed : Framed block message) (rest : Bytes) :
      Answers ending (status ++ (block ++ rest))
        (.error (.protocol ("status " ++ Text.quoted (Utf8.decodeLossy status))))
  | missing {bytes : Bytes} (hshort : bytes.length < 4) :
      Answers ending bytes (.error (.io ending.shortRead))
  | unframed {status rest : Bytes} {error : Error} (hfour : status.length = 4)
      (hokay : status ≠ statusOkay) (hunframed : Unframed ending rest error) :
      Answers ending (status ++ rest) (.error error)

variable {ending : Ending} {bytes : Bytes}

theorem framed_or_unframed (ending : Ending) (bytes : Bytes) :
    (∃ block message rest, bytes = block ++ rest ∧ Framed block message) ∨
      ∃ error, Unframed ending bytes error := by
  by_cases hshort : bytes.length < 4
  · exact .inr ⟨_, .missing hshort⟩
  have hfour : (bytes.take 4).length = 4 := List.length_take_of_le (Nat.le_of_not_lt hshort)
  rw [← List.take_append_drop 4 bytes]
  generalize bytes.take 4 = digits at hfour
  generalize bytes.drop 4 = rest
  by_cases hannounces : ∃ length, Announces digits length
  · rcases hannounces with ⟨length, hannounces⟩
    by_cases hcut : rest.length < length
    · exact .inr ⟨_, .cut hannounces hcut⟩
    · have hlength : (rest.take length).length = length :=
        List.length_take_of_le (Nat.le_of_not_lt hcut)
      refine .inl ⟨digits ++ rest.take length, rest.take length, rest.drop length, ?_, ?_⟩
      · rw [List.append_assoc, List.take_append_drop]
      · refine ⟨digits, rfl, ?_⟩
        rw [hlength]
        exact hannounces
  · have hunreadable : ∀ length, ¬ Announces digits length := by
      intro length hlength
      exact hannounces ⟨length, hlength⟩
    exact .inr ⟨_, .unreadable hfour hunreadable rest⟩

/-- All bytes come to something. -/
theorem exists_answers (ending : Ending) (bytes : Bytes) :
    ∃ outcome, Answers ending bytes outcome := by
  by_cases hshort : bytes.length < 4
  · exact ⟨_, .missing hshort⟩
  have hfour : (bytes.take 4).length = 4 := List.length_take_of_le (Nat.le_of_not_lt hshort)
  rw [← List.take_append_drop 4 bytes]
  generalize bytes.take 4 = status at hfour
  generalize bytes.drop 4 = tail
  by_cases hokay : status = statusOkay
  · subst hokay
    exact ⟨_, .accepted tail⟩
  rcases framed_or_unframed ending tail with ⟨block, message, rest, rfl, hframed⟩ | ⟨error, hfault⟩
  · by_cases hfail : status = statusFail
    · subst hfail
      exact ⟨_, .refused hframed rest⟩
    · exact ⟨_, .unexpected hfour hokay hfail hframed rest⟩
  · exact ⟨_, .unframed hfour hokay hfault⟩

theorem answers_ok_iff : Answers ending bytes (.ok ()) ↔ bytes.take 4 = statusOkay := by
  constructor
  · intro hanswers
    cases hanswers with
    | accepted rest =>
        rfl
  · intro hokay
    rw [← List.take_append_drop 4 bytes, hokay]
    exact .accepted _

/-! ## Reading what comes -/

variable {connection : Connection}

theorem on_readMessage_of_framed {block message rest : Bytes} (hframed : Framed block message)
    (hopen : connection.isOpen = true) (hbytes : connection.source.bytes = block ++ rest) :
    ∃ left, readMessage.on connection = (.ok message, left) := by
  rcases hframed with ⟨digits, rfl, hannounces⟩
  rw [List.append_assoc] at hbytes
  rcases on_readMessage_of_whole hopen hannounces hbytes with ⟨left, -, hread⟩
  exact ⟨left, hread⟩

theorem on_readMessage_of_unframed {error : Error}
    (hunframed : Unframed connection.source.ending bytes error) (hopen : connection.isOpen = true)
    (hbytes : connection.source.bytes = bytes) :
    ∃ left, readMessage.on connection = (.error error, left) := by
  cases hunframed with
  | missing hshort =>
      rw [← hbytes] at hshort
      rcases on_readMessage_of_missing hopen hshort with ⟨left, hread, -⟩
      exact ⟨left, hread⟩
  | unreadable hfour hunreadable rest =>
      rcases on_readMessage_of_unreadable hopen hfour hbytes hunreadable with ⟨left, hread, -⟩
      exact ⟨left, hread⟩
  | cut hannounces hshort =>
      rcases on_readMessage_of_cut hopen hannounces hbytes hshort with ⟨left, hread, -⟩
      exact ⟨left, hread⟩

/-- After a status other than the accepting one, a message is read. -/
theorem on_awaitOkay_of_status {status rest : Bytes} (hopen : connection.isOpen = true)
    (hbytes : connection.source.bytes = status ++ rest) (hfour : status.length = 4)
    (hokay : status ≠ statusOkay) :
    ∃ after, connection.Onward rest after ∧
      awaitOkay.on connection =
        (do
          let reply ← readMessage
          if status == statusFail then fail (.server (Utf8.decodeLossy reply))
          else fail (.protocol ("status " ++ Text.quoted (Utf8.decodeLossy status)))).on after := by
  have hother : ¬ (status == statusOkay) = true := by
    rw [beq_iff_eq]
    exact hokay
  rcases on_readRaw_of_append hopen hbytes hfour with ⟨after, hafter, hstatus⟩
  refine ⟨after, hafter, ?_⟩
  change readStatus.on _ = _ at hstatus
  rw [awaitOkay, on_bind_of_ok hstatus, if_neg hother]

theorem on_awaitOkay_of_answers {outcome : Except Error Unit}
    (hanswers : Answers connection.source.ending bytes outcome) (hopen : connection.isOpen = true)
    (hbytes : connection.source.bytes = bytes) :
    (awaitOkay.on connection).1 = outcome := by
  cases hanswers with
  | accepted rest =>
      have hopen : connection.Takes [] := Connection.takes_nil.mpr hopen
      rcases trades_awaitOkay.succeeds trivial hopen hbytes with ⟨left, -, hdone⟩
      rw [hdone]
  | refused hframed rest =>
      rcases on_awaitOkay_of_status hopen hbytes (by decide) (by decide) with ⟨after, hafter, hwait⟩
      rcases on_readMessage_of_framed hframed hafter.isOpen hafter.bytes with ⟨left, hread⟩
      rw [hwait, on_bind_of_ok hread]
      rfl
  | unexpected hfour hokay hfail hframed rest =>
      rcases on_awaitOkay_of_status hopen hbytes hfour hokay with ⟨after, hafter, hwait⟩
      rcases on_readMessage_of_framed hframed hafter.isOpen hafter.bytes with ⟨left, hread⟩
      rw [hwait, on_bind_of_ok hread, if_neg (mt beq_iff_eq.mp hfail)]
      rfl
  | missing hshort =>
      rw [← hbytes] at hshort
      rcases on_readRaw_of_short hopen hshort with ⟨left, hread, -⟩
      rw [awaitOkay]
      exact congrArg Prod.fst (on_bind_of_error hread _)
  | unframed hfour hokay hunframed =>
      rcases on_awaitOkay_of_status hopen hbytes hfour hokay with ⟨after, hafter, hwait⟩
      rw [← hafter.ending] at hunframed
      rcases on_readMessage_of_unframed hunframed hafter.isOpen hafter.bytes with ⟨left, hread⟩
      rw [hwait, on_bind_of_error hread]

/-! ## Requests -/

/-- A request that fits its length field, and that the peer takes, is written once and comes to what
the bytes of the daemon say. It succeeds exactly if the first four of them are the accepting status,
and then the connection has gone on to the bytes after these. However else it comes out, the
connection is closed. -/
theorem sendCommand_by_answer (connection : Connection) (command : Bytes)
    (hlength : command.length ≤ 65535)
    (htakes : connection.Takes (paddedHex command.length ++ command)) :
    let result := (sendCommand command).on connection
    let asked := connection.taking (paddedHex command.length ++ command)
    (∀ outcome, result.1 = outcome ↔
      Answers connection.source.ending connection.source.bytes outcome) ∧
    result.2.sink = asked.sink ∧
    (result.1 = .ok () ↔ connection.source.bytes.take 4 = Bytes.ofString "OKAY") ∧
    (result.1 = .ok () → asked.Onward (connection.source.bytes.drop 4) result.2) ∧
    (result.1 ≠ .ok () → result.2.isOpen = false) := by
  intro result asked
  have hresult : result = awaitOkay.on asked := by
    have hwrite := on_writeRaw_of_takes htakes
    rw [← writeMessage_of_fits hlength] at hwrite
    exact on_bind_of_ok hwrite _
  have houtcome : ∀ outcome, result.1 = outcome ↔
      Answers connection.source.ending connection.source.bytes outcome := by
    intro outcome
    rw [hresult]
    -- The bytes come to something, and a request comes out in one way only.
    constructor
    · rintro rfl
      rcases exists_answers asked.source.ending asked.source.bytes with ⟨other, hanswers⟩
      rw [on_awaitOkay_of_answers hanswers htakes.1 rfl]
      exact hanswers
    · intro hanswers
      exact on_awaitOkay_of_answers hanswers htakes.1 rfl
  have hokay : result.1 = .ok () ↔ connection.source.bytes.take 4 = Bytes.ofString "OKAY" := by
    rw [ofString_okay, houtcome]
    exact answers_ok_iff
  have hframe : paddedHex command.length ++ command = messageFrame command :=
    (messageFrame_eq hlength).symm
  have htakes : connection.Takes (messageFrame command) := by
    rw [← hframe]
    exact htakes
  refine ⟨houtcome, ?_, hokay, ?_, ?_⟩
  · calc result.2.sink
        = connection.sink.taking (messageFrame command) := sink_sendCommand_of_takes hlength htakes
      _ = asked.sink := by rw [← hframe]; rfl
  · intro hdone
    have hbytes : connection.source.bytes = statusOkay ++ connection.source.bytes.drop 4 := by
      rw [← ofString_okay, ← hokay.mp hdone, List.take_append_drop]
    rcases (trades_sendCommand command).succeeds hlength htakes hbytes with ⟨left, hleft, hsent⟩
    have hresult : result.2 = left := congrArg Prod.snd hsent
    rw [← hframe, ← hresult] at hleft
    exact hleft
  · intro hfails
    rcases hrun : result with ⟨error | value, left⟩
    · exact (Disciplined.sendCommand command).closes hrun
    · rw [hrun] at hfails
      exact absurd rfl hfails

/-- A refusal in pieces that cut its status and its length, an answer with a status that is neither
of the two, and one that breaks off in its status. -/
theorem sendCommand_by_answer_refusal :
    let command := Bytes.ofString "shell:ls"
    let connection := Connection.ofPeer
      ⟨[Bytes.ofString "FA", Bytes.ofString "IL00", Bytes.ofString "05hello!"], .finished⟩ .unlimited
    let strange := Connection.ofPeer
      ⟨[Bytes.ofString "WHAT0002", Bytes.ofString "no"], .finished⟩ .unlimited
    let broken := Connection.ofPeer ⟨[Bytes.ofString "OKA"], .failed (.code 104)⟩ .unlimited
    let result := (sendCommand command).on connection
    (command.length ≤ 65535 ∧ connection.Takes (paddedHex command.length ++ command)) ∧
      result.1 = .error (.server "hello") ∧ result.2.sink.sent = Bytes.ofString "0008shell:ls" ∧
      result.2.isOpen = false ∧
      ((sendCommand command).on strange).1 = .error (.protocol "status \"WHAT\"") ∧
      ((sendCommand command).on broken).1 = .error (.io (.code 104)) := by
  intro command connection strange broken result
  have hlength : command.length ≤ 65535 := by decide
  have htakes (peer : Source) : (Connection.ofPeer peer .unlimited).Takes
      (paddedHex command.length ++ command) := ⟨rfl, nofun⟩
  have hbytes : connection.source.bytes =
      statusFail ++ (Bytes.ofString "0005hello" ++ Bytes.ofString "!") := by decide
  have htext : Utf8.decodeLossy (Bytes.ofString "hello") = "hello" := by decide +kernel
  have hframed : Framed (Bytes.ofString "0005hello") (Bytes.ofString "hello") :=
    ⟨Bytes.ofString "0005", rfl, (announcedLength?_eq_some_iff rfl).mp rfl⟩
  rcases sendCommand_by_answer connection command hlength (htakes _) with
    ⟨houtcome, hsink, hokay, -, hcloses⟩
  have hrefused : result.1 = .error (.server "hello") := by
    rw [houtcome, hbytes, ← htext]
    exact .refused hframed _
  refine ⟨⟨hlength, htakes _⟩, hrefused, ?_, ?_, ?_, ?_⟩
  · rw [hsink]
    decide
  · apply hcloses
    rw [hrefused]
    nofun
  · have hname : "status " ++ Text.quoted (Utf8.decodeLossy (Bytes.ofString "WHAT")) =
        "status \"WHAT\"" := by decide +kernel
    have hstatus : strange.source.bytes =
        Bytes.ofString "WHAT" ++ (Bytes.ofString "0002no" ++ []) := by decide
    have hmessage : Framed (Bytes.ofString "0002no") (Bytes.ofString "no") :=
      ⟨Bytes.ofString "0002", rfl, (announcedLength?_eq_some_iff rfl).mp rfl⟩
    rw [(sendCommand_by_answer strange command hlength (htakes _)).1, hstatus, ← hname]
    exact .unexpected rfl (by decide) (by decide) hmessage []
  · rw [(sendCommand_by_answer broken command hlength (htakes _)).1]
    exact .missing (by decide)

end EmulatorHost.Adb.Exchange
