import EmulatorHost.Adb.Shell
import EmulatorHost.Proofs.Adb.Room
import EmulatorHost.Proofs.Adb.Upload
import EmulatorHost.Proofs.Text.Utf8

/-!
# What a client asks of a shell, as written

What a client asks of an open shell is written in packets. The packets say where they end, and a reader
that knows the three channels gets back what was asked for, one after another, except for data that is
empty, of which nothing is written. The main statement is `written_reads_back`.
-/

namespace EmulatorHost.Adb.Shell

open Exchange

/-! ## Writing -/

/-- Writes what a client asks for, whatever comes of each. -/
def writeAll (writer : Writer) : List Input → List (Except Error Unit) × Writer
  | [] => ([], writer)
  | input :: later =>
    let (outcome, left) := writer.write input
    let (outcomes, last) := writeAll left later
    (outcome :: outcomes, last)

namespace Input

/-- The packet that carries an input, with the number of its channel. -/
def numbered? (input : Input) : Option (UInt8 × Bytes) :=
  input.packet?.map fun (channel, payload) => (channel.number, payload)

def frame (input : Input) : Bytes :=
  input.numbered?.elim [] fun (channel, payload) => packetFrame channel payload

/-- The payload of an input has a length that its packet can carry. -/
def Fits (input : Input) : Prop :=
  ∀ packet ∈ input.numbered?, packet.2.length < 0x100000000

theorem numbered?_eq_none_iff (input : Input) : input.numbered? = none ↔ input = .data [] := by
  rcases input with (_ | _) | _ | _ <;> simp [numbered?, packet?]

end Input

theorem write_of_numbered?_eq_none {input : Input} (hnone : input.numbered? = none)
    (writer : Writer) : writer.write input = (.ok (), writer) := by
  rw [Input.numbered?, Option.map_eq_none_iff] at hnone
  rw [Writer.write, hnone]

/-- What needs a packet is written as that packet, if it is not refused for its size. -/
theorem write_of_numbered? {input : Input} {packet : UInt8 × Bytes}
    (hpacket : input.numbered? = some packet) (writer : Writer) :
    writer.write input =
      (((writePacket packet.1 packet.2).on writer.connection).1,
        ⟨((writePacket packet.1 packet.2).on writer.connection).2⟩) := by
  rw [Input.numbered?, Option.map_eq_some_iff] at hpacket
  rcases hpacket with ⟨⟨channel, payload⟩, hinput, rfl⟩
  rw [Writer.write, hinput]

theorem write_of_takes {writer : Writer} {input : Input} (hfits : input.Fits)
    (htakes : writer.connection.Takes input.frame) :
    writer.write input = (.ok (), ⟨writer.connection.taking input.frame⟩) := by
  cases hpacket : input.numbered? with
  | none =>
      have hnothing : input.frame = [] := by simp [Input.frame, hpacket]
      simp [write_of_numbered?_eq_none hpacket, hnothing, Connection.taking_nil]
  | some packet =>
      have hframe : input.frame = packetFrame packet.1 packet.2 := by
        simp [Input.frame, hpacket]
      have hlength : packet.2.length < Bytes.limit 4 := hfits packet hpacket
      have hwrite : (writePacket packet.1 packet.2).on writer.connection =
          (.ok (), writer.connection.taking input.frame) := by
        rw [writePacket, if_pos hlength, ← hframe]
        exact on_writeRaw_of_takes htakes
      rw [write_of_numbered? hpacket, hwrite]

theorem of_write_ok {writer left : Writer} {input : Input}
    (hok : writer.write input = (.ok (), left)) :
    input.Fits ∧ left.connection.sink.sent = writer.connection.sink.sent ++ input.frame := by
  cases hpacket : input.numbered? with
  | none =>
      rw [write_of_numbered?_eq_none hpacket] at hok
      cases hok
      simp [Input.Fits, Input.frame, hpacket]
  | some packet =>
      rw [write_of_numbered? hpacket, writePacket] at hok
      split at hok
      · rename_i hlength
        have hfits : packet.2.length < 0x100000000 := hlength
        rcases hwrite : (writeRaw (packetFrame packet.1 packet.2)).on writer.connection with
          ⟨outcome, connection⟩
        rw [hwrite] at hok
        cases hok
        have hsent := (of_writeRaw_ok hwrite).2.2.2
        refine ⟨?_, ?_⟩
        · simpa [Input.Fits, hpacket] using hfits
        · simpa [Input.frame, hpacket] using hsent
      · cases hok

theorem writeAll_of_takes {writer : Writer} {inputs : List Input}
    (hfit : ∀ input ∈ inputs, input.Fits)
    (htakes : writer.connection.Takes (inputs.flatMap Input.frame)) :
    writeAll writer inputs =
      (inputs.map fun _ => .ok (), ⟨writer.connection.taking (inputs.flatMap Input.frame)⟩) := by
  induction inputs generalizing writer with
  | nil =>
      simp [writeAll, Connection.taking_nil]
  | cons input later ih =>
      rw [List.forall_mem_cons] at hfit
      rw [List.flatMap_cons, Connection.takes_append] at htakes
      have hfirst := write_of_takes hfit.1 htakes.1
      have hlater := @ih ⟨writer.connection.taking input.frame⟩ hfit.2 htakes.2
      simp [writeAll, hfirst, hlater, Connection.taking_append]

theorem of_writeAll_ok {writer : Writer} {inputs : List Input}
    (hok : ∀ outcome ∈ (writeAll writer inputs).1, outcome = .ok ()) :
    (∀ input ∈ inputs, input.Fits) ∧
      (writeAll writer inputs).2.connection.sink.sent =
        writer.connection.sink.sent ++ inputs.flatMap Input.frame := by
  induction inputs generalizing writer with
  | nil =>
      simp [writeAll]
  | cons input later ih =>
      simp only [writeAll, List.forall_mem_cons] at hok
      have hwrite : writer.write input = (.ok (), (writer.write input).2) := Prod.ext hok.1 rfl
      rcases of_write_ok hwrite with ⟨hfits, hsent⟩
      rcases ih hok.2 with ⟨hfit, hlater⟩
      refine ⟨List.forall_mem_cons.mpr ⟨hfits, hfit⟩, ?_⟩
      simp [writeAll, hlater, hsent]

/-! ## Reading packets -/

/-- The length of a payload, as the bytes after the number of the channel give it. -/
def announced (rest : Bytes) : Nat :=
  Bytes.leValue (rest.take 4)

/-- Takes packets off the bytes, each with a header of five bytes and a payload of the length that the
header gives; nothing may be left. -/
def readPackets? : Bytes → Option (List (UInt8 × Bytes))
  | [] => some []
  | channel :: rest =>
    if 4 ≤ rest.length ∧ announced rest ≤ (rest.drop 4).length then
      (readPackets? ((rest.drop 4).drop (announced rest))).map
        ((channel, (rest.drop 4).take (announced rest)) :: ·)
    else none
termination_by bytes => bytes.length
decreasing_by
  simp only [List.length_drop, List.length_cons]
  omega

theorem readPackets?_packetFrame {payload : Bytes} (hfits : payload.length < 0x100000000)
    (channel : UInt8) (rest : Bytes) :
    readPackets? (packetFrame channel payload ++ rest) =
      (readPackets? rest).map ((channel, payload) :: ·) := by
  let header := Bytes.leBytes 4 payload.length
  have hnumber : header.length = 4 := Bytes.length_leBytes 4 _
  have hbytes : packetFrame channel payload ++ rest = channel :: (header ++ (payload ++ rest)) := by
    simp only [packetFrame, header, List.cons_append, List.append_assoc]
  have hannounced : announced (header ++ (payload ++ rest)) = payload.length := by
    rw [announced, List.take_left' hnumber]
    exact Sync.leValue_length hfits
  have htail : (header ++ (payload ++ rest)).drop 4 = payload ++ rest := List.drop_left' hnumber
  have hwhole : 4 ≤ (header ++ (payload ++ rest)).length ∧
      payload.length ≤ (payload ++ rest).length := by
    simp [hnumber]
  rw [hbytes, readPackets?, hannounced, htail, if_pos hwhole, List.take_left, List.drop_left]

/-- Bytes are seen as packets in one way only: as those that they were written from. -/
theorem readPackets?_eq_some_iff {bytes : Bytes} {packets : List (UInt8 × Bytes)} :
    readPackets? bytes = some packets ↔
      bytes = packets.flatMap (fun (channel, payload) => packetFrame channel payload) ∧
        ∀ packet ∈ packets, packet.2.length < 0x100000000 := by
  constructor
  · intro hread
    induction bytes using readPackets?.induct generalizing packets with
    | case1 =>
        simp only [readPackets?, Option.some.injEq] at hread
        subst hread
        simp
    | case2 channel rest hwhole ih =>
        rw [readPackets?, if_pos hwhole, Option.map_eq_some_iff] at hread
        rcases hread with ⟨later, hlater, rfl⟩
        rcases ih hlater with ⟨hbytes, hfit⟩
        have hnumber : (rest.take 4).length = 4 := List.length_take_of_le hwhole.1
        have hpayload : ((rest.drop 4).take (announced rest)).length = announced rest :=
          List.length_take_of_le hwhole.2
        have hlimit := Bytes.leValue_lt (rest.take 4)
        have hheader := Bytes.leBytes_leValue (rest.take 4)
        rw [hnumber, ← announced] at hlimit hheader
        refine ⟨?_, List.forall_mem_cons.mpr ⟨?_, hfit⟩⟩
        · calc channel :: rest
              = channel :: (rest.take 4 ++ ((rest.drop 4).take (announced rest) ++
                  (rest.drop 4).drop (announced rest))) := by
                rw [List.take_append_drop, List.take_append_drop]
            _ = packetFrame channel ((rest.drop 4).take (announced rest)) ++
                  (rest.drop 4).drop (announced rest) := by
                rw [packetFrame, hpayload, hheader]
                simp only [List.cons_append, List.append_assoc]
            _ = _ := by rw [hbytes, List.flatMap_cons]
        · rw [hpayload]
          exact hlimit
    | case3 channel rest hcut =>
        rw [readPackets?, if_neg hcut] at hread
        cases hread
  · rintro ⟨rfl, hfit⟩
    induction packets with
    | nil =>
        simp [readPackets?]
    | cons packet later ih =>
        rw [List.forall_mem_cons] at hfit
        rw [List.flatMap_cons, readPackets?_packetFrame hfit.1, ih hfit.2]
        rfl

/-! ## Reading what a packet asks for -/

/-- The number of 32 bits that decimal digits spell. -/
def readWord? (digits : List Char) : Option UInt32 :=
  let number := Nat.ofDigitChars 10 digits 0
  if digits ≠ [] ∧ digits.all Char.isDigit ∧ number < 0x100000000 then some (.ofNat number)
  else none

def readPair? (text : List Char) : Option (UInt32 × UInt32) :=
  match text.splitOn 'x' with
  | [first, second] => do return (← readWord? first, ← readWord? second)
  | _ => none

/-- The size of a window: rows and columns, and after a comma width and height. -/
def readWindow? (text : List Char) : Option Input :=
  match text.splitOn ',' with
  | [cells, pixels] => do
    let (rows, cols) ← readPair? cells
    let (width, height) ← readPair? pixels
    return .resize rows cols width height
  | _ => none

/-- What a packet asks for: data on channel 0, the end of the data on channel 4, and a size of the
window on channel 5. -/
def readInput? : UInt8 × Bytes → Option Input
  | (channel, payload) =>
    if channel = 0 then some (.data payload)
    else if channel = 4 ∧ payload = [] then some .close
    else if channel = 5 then do
      let text ← String.fromUTF8? ⟨payload.toArray⟩
      readWindow? text.toList
    else none

theorem readWord?_toDigits (word : UInt32) :
    readWord? (Nat.toDigits 10 word.toNat) = some word := by
  have hdigits : (Nat.toDigits 10 word.toNat).all Char.isDigit = true := by
    rw [List.all_eq_true]
    intro digit hdigit
    exact Nat.isDigit_of_mem_toDigits (by decide) (by decide) hdigit
  have hlimit : word.toNat < 0x100000000 := word.toNat_lt
  have hsome : Nat.toDigits 10 word.toNat ≠ [] := Nat.toDigits_ne_nil
  simp [readWord?, hsome, hdigits, hlimit]

/-- What is no digit stands in no number. -/
theorem notMem_toDigits {letter : Char} (hletter : letter.isDigit = false) (number : Nat) :
    letter ∉ Nat.toDigits 10 number := by
  intro hmem
  have hdigit := Nat.isDigit_of_mem_toDigits (by decide) (by decide) hmem
  rw [hletter] at hdigit
  cases hdigit

def pairDigits (first second : UInt32) : List Char :=
  Nat.toDigits 10 first.toNat ++ 'x' :: Nat.toDigits 10 second.toNat

theorem readPair?_pairDigits (first second : UInt32) :
    readPair? (pairDigits first second) = some (first, second) := by
  have hfirst : 'x' ∉ Nat.toDigits 10 first.toNat := notMem_toDigits (by decide) _
  have hsecond : 'x' ∉ Nat.toDigits 10 second.toNat := notMem_toDigits (by decide) _
  have hsplit : (pairDigits first second).splitOn 'x' =
      [Nat.toDigits 10 first.toNat, Nat.toDigits 10 second.toNat] := by
    rw [pairDigits, List.splitOn_append_cons_self_of_not_mem hfirst,
      List.splitOn_eq_singleton hsecond]
  simp [readPair?, hsplit, readWord?_toDigits]

theorem comma_notMem_pairDigits (first second : UInt32) : ',' ∉ pairDigits first second := by
  have hfirst : ',' ∉ Nat.toDigits 10 first.toNat := notMem_toDigits (by decide) _
  have hsecond : ',' ∉ Nat.toDigits 10 second.toNat := notMem_toDigits (by decide) _
  simp [pairDigits, hfirst, hsecond]

theorem toList_windowText (rows cols width height : UInt32) :
    (windowText rows cols width height).toList =
      pairDigits rows cols ++ ',' :: pairDigits width height := by
  simp [windowText, pairDigits]

/-- A number in decimal digits. -/
def decimal (number : UInt32) : Bytes :=
  (Nat.toDigits 10 number.toNat).map fun digit => UInt8.ofNat digit.toNat

/-- The digits, the two letters between them and the comma are all in ASCII. -/
theorem isAscii_windowText (rows cols width height : UInt32) :
    ∀ letter ∈ (windowText rows cols width height).toList, letter.toNat < 128 := by
  have hdigit {number : UInt32} {letter : Char} (hmem : letter ∈ Nat.toDigits 10 number.toNat) :
      letter.toNat < 128 := by
    have hletter := Nat.isDigit_of_mem_toDigits (by decide) (by decide) hmem
    simp only [Char.isDigit, Bool.and_eq_true, decide_eq_true_eq] at hletter
    exact Nat.lt_of_le_of_lt hletter.2 (by decide)
  intro letter hmem
  rw [toList_windowText] at hmem
  simp only [pairDigits, List.mem_append, List.mem_cons] at hmem
  rcases hmem with (hrows | rfl | hcols) | rfl | hwidth | rfl | hheight
  · exact hdigit hrows
  · decide
  · exact hdigit hcols
  · decide
  · exact hdigit hwidth
  · decide
  · exact hdigit hheight

/-- The bytes of a window's size: `rows x cols`, a comma, and `width x height`. -/
theorem ofString_windowText (rows cols width height : UInt32) :
    Bytes.ofString (windowText rows cols width height) =
      decimal rows ++ 0x78 :: decimal cols ++ 0x2c :: (decimal width ++ 0x78 :: decimal height) := by
  rw [Utf8.ofString_of_ascii (isAscii_windowText rows cols width height), toList_windowText]
  simp only [pairDigits, List.map_append, List.map_cons, decimal]
  rfl

theorem readWindow?_windowText (rows cols width height : UInt32) :
    readWindow? (windowText rows cols width height).toList =
      some (.resize rows cols width height) := by
  have hcells := comma_notMem_pairDigits rows cols
  have hpixels := comma_notMem_pairDigits width height
  have hsplit : (windowText rows cols width height).toList.splitOn ',' =
      [pairDigits rows cols, pairDigits width height] := by
    rw [toList_windowText, List.splitOn_append_cons_self_of_not_mem hcells,
      List.splitOn_eq_singleton hpixels]
  simp [readWindow?, hsplit, readPair?_pairDigits]

theorem readInput?_of_numbered? {input : Input} {packet : UInt8 × Bytes}
    (hpacket : input.numbered? = some packet) : readInput? packet = some input := by
  cases input with
  | data bytes =>
      cases bytes with
      | nil =>
          cases hpacket
      | cons byte rest =>
          cases hpacket
          rfl
  | close =>
      cases hpacket
      rfl
  | resize rows cols width height =>
      cases hpacket
      have htext := Sync.fromUTF8?_ofString (windowText rows cols width height)
      simp [readInput?, Channel.number, htext, readWindow?_windowText]

/-- The packets of what is asked for are read as that, without the data that is empty. -/
theorem mapM_readInput?_numbered? (inputs : List Input) :
    (inputs.filterMap Input.numbered?).mapM readInput? =
      some (inputs.filter (· ≠ .data [])) := by
  induction inputs with
  | nil =>
      rfl
  | cons input later ih =>
      cases hpacket : input.numbered? with
      | none =>
          have hempty : input = .data [] := (input.numbered?_eq_none_iff).mp hpacket
          rw [List.filterMap_cons_none hpacket, ih, hempty]
          simp
      | some packet =>
          have hsome : input ≠ .data [] := by
            intro hempty
            rw [(input.numbered?_eq_none_iff).mpr hempty] at hpacket
            cases hpacket
          simp [hpacket, hsome, readInput?_of_numbered? hpacket, ih]

theorem flatMap_frame (inputs : List Input) :
    inputs.flatMap Input.frame =
      (inputs.filterMap Input.numbered?).flatMap fun (channel, payload) =>
        packetFrame channel payload := by
  induction inputs with
  | nil =>
      rfl
  | cons input later ih =>
      cases hpacket : input.numbered? <;> simp [Input.frame, hpacket, ih]

/-! ## There and back -/

/-- Where every input could be written, the bytes written are packets and can be seen as packets in one
way only; and what these ask for are the inputs in order, those without data left out. -/
theorem written_reads_back (writer : Writer) (inputs : List Input)
    (hok : ∀ outcome ∈ (writeAll writer inputs).1, outcome = .ok ()) :
    ∃ written packets,
      (writeAll writer inputs).2.connection.sink.sent = writer.connection.sink.sent ++ written ∧
      (∀ others : List (UInt8 × Bytes), others = packets ↔
        written = others.flatMap (fun packet =>
          packet.1 :: (Bytes.leBytes 4 packet.2.length ++ packet.2)) ∧
        ∀ packet ∈ others, packet.2.length < 0x100000000) ∧
      packets.mapM readInput? = some (inputs.filter (· ≠ .data [])) := by
  rcases of_writeAll_ok hok with ⟨hfit, hsent⟩
  refine ⟨_, inputs.filterMap Input.numbered?, hsent, ?_, mapM_readInput?_numbered? inputs⟩
  have hread : readPackets? (inputs.flatMap Input.frame) =
      some (inputs.filterMap Input.numbered?) := by
    apply readPackets?_eq_some_iff.mpr
    refine ⟨flatMap_frame inputs, ?_⟩
    intro packet hpacket
    rcases List.mem_filterMap.mp hpacket with ⟨input, hinput, hnumbered⟩
    exact hfit input hinput packet hnumbered
  intro others
  calc others = inputs.filterMap Input.numbered?
      ↔ readPackets? (inputs.flatMap Input.frame) = some others := by
        rw [hread, Option.some.injEq, eq_comm]
    _ ↔ _ := readPackets?_eq_some_iff

def lastInputs : List Input :=
  [.data [0x68, 0x69], .data [], .resize 24 80 4294967295 0, .close]

theorem written_reads_back_of_last :
    let writer : Writer := ⟨.ofPeer ⟨[], .finished⟩ .unlimited⟩
    (∀ outcome ∈ (writeAll writer lastInputs).1, outcome = .ok ()) ∧
      ∃ packets : List (UInt8 × Bytes),
        (writeAll writer lastInputs).2.connection.sink.sent =
          packets.flatMap (fun packet =>
            packet.1 :: (Bytes.leBytes 4 packet.2.length ++ packet.2)) ∧
        packets.mapM readInput? =
          some [.data [0x68, 0x69], .resize 24 80 4294967295 0, .close] := by
  intro writer
  have hfit : ∀ input ∈ lastInputs, input.Fits := by
    simp [lastInputs, Input.Fits, Input.numbered?, Input.packet?]
    decide
  have htakes : writer.connection.Takes (lastInputs.flatMap Input.frame) := ⟨rfl, nofun⟩
  have hok : ∀ outcome ∈ (writeAll writer lastInputs).1, outcome = .ok () := by
    simp [writeAll_of_takes hfit htakes]
  refine ⟨hok, ?_⟩
  rcases written_reads_back writer lastInputs hok with ⟨written, packets, hsent, hpackets, hread⟩
  refine ⟨packets, ?_, hread⟩
  rw [hsent, ((hpackets packets).mp rfl).1]
  rfl

end EmulatorHost.Adb.Shell
