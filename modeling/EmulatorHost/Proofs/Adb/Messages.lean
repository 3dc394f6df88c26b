import EmulatorHost.Proofs.Adb.LengthPrefix
import EmulatorHost.Proofs.Adb.Room

/-!
# Messages there and back

A message is written as four hexadecimal digits of its length and then the message. Whoever reads
what was written gets the same messages in the same order, however the bytes were cut on their way,
and finds nothing after the last one. The main statement is `messages_read_back`.
-/

namespace EmulatorHost.Adb.Exchange

/-! ## Lengths in hexadecimal -/

/-- A number in lower-case hexadecimal digits, filled up with zeros to four of them. -/
def paddedHex (number : Nat) : Bytes :=
  ((Nat.toDigits 16 number).leftpad 4 '0').map fun digit => UInt8.ofNat digit.toNat

/-- The last digit stands for the remainder, and the digits before it for the quotient. -/
theorem leftpad_toDigits {width : Nat} (hwidth : 1 ≤ width) (number : Nat) :
    (Nat.toDigits 16 number).leftpad (width + 1) '0' =
      (Nat.toDigits 16 (number / 16)).leftpad width '0' ++ [Nat.digitChar (number % 16)] := by
  by_cases hsmall : number < 16
  · have hquotient : number / 16 = 0 := Nat.div_eq_of_lt hsmall
    have hremainder : number % 16 = number := Nat.mod_eq_of_lt hsmall
    have hzero : Nat.toDigits 16 0 = ['0'] := Nat.toDigits_of_lt_base (by decide)
    obtain ⟨more, rfl⟩ : ∃ more, width = more + 1 := ⟨width - 1, by omega⟩
    have hzeros : List.replicate (more + 1) '0' = List.replicate more '0' ++ ['0'] :=
      List.replicate_succ'
    rw [hquotient, hremainder, hzero, Nat.toDigits_of_lt_base hsmall]
    simp [List.leftpad, hzeros]
  · have hlarge : 16 ≤ number := Nat.le_of_not_lt hsmall
    rw [Nat.toDigits_of_base_le (by decide) hlarge]
    simp [List.leftpad]

theorem hexDigit_eq : ∀ digit < 16,
    hexDigit digit = UInt8.ofNat (Nat.digitChar digit).toNat := by
  decide

/-- The digits of a length are those of the number. -/
theorem lengthDigits_eq {length : Nat} (hlength : length < 65536) :
    lengthDigits length = paddedHex length := by
  have hfirst : length / 16 / 16 / 16 < 16 := by omega
  have hdigits : (Nat.toDigits 16 length).leftpad 4 '0' =
      [Nat.digitChar (length / 4096 % 16), Nat.digitChar (length / 256 % 16),
        Nat.digitChar (length / 16 % 16), Nat.digitChar (length % 16)] := by
    rw [leftpad_toDigits (by decide), leftpad_toDigits (by decide), leftpad_toDigits (by decide),
      Nat.toDigits_of_lt_base hfirst, ← Nat.mod_eq_of_lt hfirst]
    simp [List.leftpad, Nat.div_div_eq_div_mul]
  have hdigit (number : Nat) := hexDigit_eq (number % 16) (Nat.mod_lt number (by decide))
  rw [paddedHex, hdigits, lengthDigits]
  simp only [hdigit, List.map_cons, List.map_nil]

/-- Each digit that is written is read as its value, and none of them as a sign. -/
theorem digit?_hexDigit : ∀ digit < 16,
    Numeral.digit? 16 (Char.ofNat (hexDigit digit).toNat) = some digit ∧
      Char.ofNat (hexDigit digit).toNat ≠ '+' := by
  decide

/-- A length is read back from its digits. -/
theorem announcedLength?_lengthDigits {length : Nat} (hlength : length < 65536) :
    announcedLength? (lengthDigits length) = some length := by
  have hdigit (number : Nat) := digit?_hexDigit (number % 16) (Nat.mod_lt number (by decide))
  have hvalue : ((length / 4096 % 16 * 16 + length / 256 % 16) * 16 + length / 16 % 16) * 16 +
      length % 16 = length := by omega
  simp only [announcedLength?, lengthDigits, List.map_cons, List.map_nil]
  rw [unsigned?_of_digit (hdigit _).2]
  simp only [Numeral.digits?, Numeral.digitsFrom?, (hdigit _).1, Nat.zero_mul, Nat.zero_add, hvalue]

/-! ## One message -/

theorem messageFrame_eq {message : Bytes} (hfits : message.length ≤ 65535) :
    messageFrame message = paddedHex message.length ++ message := by
  rw [messageFrame, lengthDigits_eq (Nat.lt_succ_of_le hfits)]

theorem writeMessage_of_fits {message : Bytes} (hfits : message.length ≤ 65535) :
    writeMessage message = writeRaw (paddedHex message.length ++ message) := by
  rw [← messageFrame_eq hfits]
  exact if_pos hfits

theorem reads_readMessage {message : Bytes} (hfits : message.length ≤ 65535) :
    Reads readMessage (paddedHex message.length ++ message) message := by
  have hlength : message.length < 65536 := Nat.lt_succ_of_le hfits
  have hdigits : (lengthDigits message.length).length = 4 := rfl
  rw [← lengthDigits_eq hlength]
  refine Reads.bind (.readRaw hdigits) ?_
  rw [announcedLength?_lengthDigits hlength]
  exact .readBlock hfits

/-! ## Many messages -/

/-- Messages of at most 65535 bytes are written each as four hexadecimal digits of its length and
then the message. Where exactly these bytes come, in whatever segments, reading them gives the same
messages in order; each read stops where the next message begins, and the one after the last message
fails as the peer's direction ends, and closes the connection. A longer message is refused before
anything is written. -/
theorem messages_read_back (messages : List Bytes)
    (hfit : ∀ message ∈ messages, message.length ≤ 65535) :
    let frame (message : Bytes) := paddedHex message.length ++ message
    (∀ writer : Connection, writer.Takes (messages.flatMap frame) →
      (messages.forM writeMessage).on writer = (.ok (), writer.taking (messages.flatMap frame))) ∧
    (∀ reader : Connection, reader.isOpen = true →
      reader.source.bytes = messages.flatMap frame →
        (∀ turn (hturn : turn < messages.length),
          readMessage.atTurn reader turn = .ok messages[turn] ∧
            reader.Onward ((messages.drop (turn + 1)).flatMap frame)
              (readMessage.afterTurns reader (turn + 1))) ∧
        ∃ left, readMessage.on (readMessage.afterTurns reader messages.length) =
            (.error (.io reader.source.ending.shortRead), left) ∧ left.isOpen = false) ∧
    ∀ (message : Bytes) (connection : Connection), 65535 < message.length →
      (writeMessage message).on connection =
        (.error (.framing ("message of " ++ toString message.length ++
          " bytes does not fit a 4 digit length")), { connection with isOpen := false }) := by
  intro frame
  refine ⟨?_, ?_, ?_⟩
  · intro writer htakes
    refine on_forM_of_takes ?_ htakes
    intro message hmessage connection hroom
    rw [writeMessage_of_fits (hfit message hmessage)]
    exact on_writeRaw_of_takes hroom
  · intro reader hopen hbytes
    have hitems : ∀ message ∈ messages, Reads readMessage (frame message) message := by
      intro message hmessage
      exact reads_readMessage (hfit message hmessage)
    have hall : reader.source.bytes = messages.flatMap frame ++ [] := by
      rw [hbytes, List.append_nil]
    rcases Reads.turns hitems hopen hall with ⟨hvalues, hplaces⟩
    simp only [List.append_nil] at hplaces
    refine ⟨fun turn hturn => ⟨hvalues turn hturn, hplaces (turn + 1) hturn⟩, ?_⟩
    -- Nothing is left after the last message, not even the digits of a length.
    have hlast := hplaces messages.length (Nat.le_refl _)
    have hshort : (readMessage.afterTurns reader messages.length).source.bytes.length < 4 := by
      rw [hlast.bytes, List.drop_length]
      decide
    rcases on_readRaw_of_short hlast.isOpen hshort with ⟨left, hread, hclosed⟩
    rw [hlast.ending] at hread
    exact ⟨left, on_bind_of_error hread _, hclosed⟩
  · intro message connection hlong
    have hnot : ¬ message.length ≤ maxMessageLength := Nat.not_le_of_lt hlong
    rw [writeMessage, if_neg hnot]
    rfl

/-- An empty message and one of two bytes, in segments that cut the digits of both lengths. -/
theorem messages_read_back_cutDigits :
    let messages : List Bytes := [[], [0x68, 0x69]]
    let stream := Bytes.ofString "00000002hi"
    let writer := Connection.ofPeer ⟨[], .finished⟩ .unlimited
    let reader := Connection.ofPeer
      ⟨[Bytes.ofString "00", Bytes.ofString "00000", Bytes.ofString "2hi"], .finished⟩ .unlimited
    ((∀ message ∈ messages, message.length ≤ 65535) ∧ writer.Takes stream ∧
        reader.source.bytes = stream) ∧
      (messages.forM writeMessage).on writer = (.ok (), writer.taking stream) ∧
      readMessage.atTurn reader 0 = .ok [] ∧ readMessage.atTurn reader 1 = .ok [0x68, 0x69] ∧
      readMessage.atTurn reader 2 = .error (.io (.text "early eof")) ∧
      (readMessage.afterTurns reader 3).isOpen = false := by
  intro messages stream writer reader
  have hfit : ∀ message ∈ messages, message.length ≤ 65535 := by decide
  have hstream : messages.flatMap (fun message => paddedHex message.length ++ message) = stream := by
    decide
  have htakes : writer.Takes stream := ⟨rfl, nofun⟩
  have hbytes : reader.source.bytes = stream := by decide
  rcases messages_read_back messages hfit with ⟨hwrite, hread, -⟩
  simp only [hstream] at hwrite hread
  rcases hread reader rfl hbytes with ⟨hturns, left, hend, hclosed⟩
  have hlast : readMessage.afterTurns reader 3 = left := congrArg Prod.snd hend
  rw [hlast]
  exact ⟨⟨hfit, htakes, hbytes⟩, hwrite writer htakes, (hturns 0 (by decide)).1,
    (hturns 1 (by decide)).1, congrArg Prod.fst hend, hclosed⟩

end EmulatorHost.Adb.Exchange
