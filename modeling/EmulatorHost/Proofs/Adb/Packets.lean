import EmulatorHost.Proofs.Adb.Reading
import EmulatorHost.Proofs.Adb.Room

/-!
# Packets there and back

A packet is its channel, the length of its payload in four bytes, and the payload. A payload may be
written that is longer than what a reader accepts. So whoever reads what was written gets the same
packets in the same order up to the first such payload, and refuses that one by its header alone. The
main statement is `packets_read_back`.
-/

namespace EmulatorHost.Adb.Exchange

/-! ## One packet -/

theorem writePacket_of_fits {payload : Bytes} (hfits : payload.length < 0x100000000)
    (channel : UInt8) :
    writePacket channel payload =
      writeRaw (channel :: (Bytes.leBytes 4 payload.length ++ payload)) :=
  if_pos hfits

/-- The channel and the length are read from the header of a packet. -/
theorem reads_header {payload : Bytes} (hfits : payload.length < 0x100000000) (channel : UInt8) :
    let header := channel :: Bytes.leBytes 4 payload.length
    Reads (readRaw 5) header header ∧ header.headD 0 = channel ∧
      Bytes.leValue header.tail = payload.length := by
  intro header
  have hlength : header.length = 5 := congrArg (· + 1) (Bytes.length_leBytes 4 payload.length)
  have hvalue : Bytes.leValue (Bytes.leBytes 4 payload.length) = payload.length := by
    rw [Bytes.leValue_leBytes]
    exact Nat.mod_eq_of_lt hfits
  exact ⟨.readRaw hlength, rfl, hvalue⟩

theorem reads_readPacket {payload : Bytes} (hfits : payload.length ≤ 1048576) (channel : UInt8) :
    Reads readPacket (channel :: (Bytes.leBytes 4 payload.length ++ payload))
      (channel, payload) := by
  rcases reads_header (Nat.lt_of_le_of_lt hfits (by decide)) channel with
    ⟨hheader, hchannel, hlength⟩
  have hpayload : Reads (readBlock payload.length maxPacketLength) payload payload :=
    .readBlock hfits
  refine Reads.bind hheader ?_
  rw [hchannel, hlength]
  exact hpayload.map fun payload => (channel, payload)

/-- A header that announces a payload of a length within the limit is followed by that read. -/
theorem on_readPacket_of_header {connection : Connection} {channel : UInt8} {number rest : Bytes}
    (hopen : connection.isOpen = true) (hnumber : number.length = 4)
    (hbytes : connection.source.bytes = channel :: number ++ rest) :
    ∃ left, connection.Onward rest left ∧
      readPacket.on connection =
        (do return (channel, ← readBlock (Bytes.leValue number) maxPacketLength)).on left := by
  have hheader : (channel :: number).length = 5 := congrArg (· + 1) hnumber
  rcases on_readRaw_of_append hopen hbytes hheader with ⟨left, hleft, hread⟩
  exact ⟨left, hleft, on_bind_of_ok hread _⟩

/-- A packet that announces too long a payload is refused once its header is read. -/
theorem on_readPacket_of_overlong {connection : Connection} {channel : UInt8}
    {number rest : Bytes} (hopen : connection.isOpen = true) (hnumber : number.length = 4)
    (hbytes : connection.source.bytes = channel :: number ++ rest)
    (hlong : 1048576 < Bytes.leValue number) :
    ∃ left, readPacket.on connection =
        (.error (.protocol ("peer announced " ++ toString (Bytes.leValue number) ++
          " bytes, limit is 1048576")), left) ∧
      left.isOpen = false ∧ left.source.bytes = rest := by
  rcases on_readPacket_of_header hopen hnumber hbytes with ⟨left, hleft, hread⟩
  refine ⟨{ left with isOpen := false }, ?_, rfl, hleft.bytes⟩
  have hlimit : " bytes, limit is " ++ toString maxPacketLength = " bytes, limit is 1048576" := by
    decide
  rw [hread]
  exact on_bind_of_error (on_readBlock_of_long hlong hlimit left) _

/-- A packet whose payload is too long is refused once its header is read. -/
theorem on_readPacket_of_long {connection : Connection} {channel : UInt8} {payload rest : Bytes}
    (hopen : connection.isOpen = true)
    (hbytes : connection.source.bytes =
      channel :: (Bytes.leBytes 4 payload.length ++ payload) ++ rest)
    (hfits : payload.length < 0x100000000) (hlong : 1048576 < payload.length) :
    ∃ left, readPacket.on connection =
        (.error (.protocol ("peer announced " ++ toString payload.length ++
          " bytes, limit is 1048576")), left) ∧
      left.isOpen = false ∧ left.source.bytes = payload ++ rest := by
  have hnumber : (Bytes.leBytes 4 payload.length).length = 4 := Bytes.length_leBytes 4 _
  have hlength : Bytes.leValue (Bytes.leBytes 4 payload.length) = payload.length :=
    (reads_header hfits channel).2.2
  have hnext : connection.source.bytes =
      channel :: Bytes.leBytes 4 payload.length ++ (payload ++ rest) := by
    rw [hbytes]
    simp only [List.cons_append, List.append_assoc]
  rw [← hlength] at hlong
  simpa only [hlength] using on_readPacket_of_overlong hopen hnumber hnext hlong

/-! ## Many packets -/

/-- Packets whose payloads are shorter than 2^32 bytes are written each as its channel, the length
of its payload in four bytes, least significant first, and the payload. Where exactly these bytes
come, in whatever segments, reading them gives the same packets in order, as long as their payloads
have at most 1048576 bytes. The read of a packet with a longer payload fails and closes the
connection, and of that packet it has taken the five bytes of the header; after the last packet a
read fails as the peer's direction ends. -/
theorem packets_read_back (packets : List (UInt8 × Bytes))
    (hfit : ∀ packet ∈ packets, packet.2.length < 0x100000000) :
    let frame (packet : UInt8 × Bytes) :=
      packet.1 :: (Bytes.leBytes 4 packet.2.length ++ packet.2)
    (∀ writer : Connection, writer.Takes (packets.flatMap frame) →
      (packets.forM fun packet => writePacket packet.1 packet.2).on writer =
        (.ok (), writer.taking (packets.flatMap frame))) ∧
    ∀ reader : Connection, reader.isOpen = true →
      reader.source.bytes = packets.flatMap frame →
      ∀ before rest, packets = before ++ rest →
        (∀ packet ∈ before, packet.2.length ≤ 1048576) →
        (∀ turn (hturn : turn < before.length),
            readPacket.atTurn reader turn = .ok before[turn]) ∧
        (∀ turn, turn ≤ before.length →
          reader.Onward ((before.drop turn ++ rest).flatMap frame)
            (readPacket.afterTurns reader turn)) ∧
        (∀ channel payload later, rest = (channel, payload) :: later →
          1048576 < payload.length →
          ∃ left, readPacket.on (readPacket.afterTurns reader before.length) =
              (.error (.protocol ("peer announced " ++ toString payload.length ++
                " bytes, limit is 1048576")), left) ∧
            left.isOpen = false ∧ left.source.bytes = payload ++ later.flatMap frame) ∧
        (rest = [] →
          ∃ left, readPacket.on (readPacket.afterTurns reader before.length) =
              (.error (.io reader.source.ending.shortRead), left) ∧ left.isOpen = false) := by
  intro frame
  refine ⟨?_, ?_⟩
  · intro writer htakes
    refine on_forM_of_takes ?_ htakes
    intro packet hpacket connection hroom
    rw [writePacket_of_fits (hfit packet hpacket)]
    exact on_writeRaw_of_takes hroom
  · intro reader hopen hbytes before rest hpackets hsmall
    have hitems : ∀ packet ∈ before, Reads readPacket (frame packet) packet := by
      intro packet hpacket
      exact reads_readPacket (hsmall packet hpacket) packet.1
    have hall : reader.source.bytes = before.flatMap frame ++ rest.flatMap frame := by
      rw [hbytes, hpackets, List.flatMap_append]
    rcases Reads.turns hitems hopen hall with ⟨hvalues, hplaces⟩
    -- Where the turns of the packets that are accepted end, the rest begins.
    have hlast := hplaces before.length (Nat.le_refl _)
    rw [List.drop_length, List.flatMap_nil, List.nil_append] at hlast
    refine ⟨hvalues, ?_, ?_, ?_⟩
    · intro turn hturn
      rw [List.flatMap_append]
      exact hplaces turn hturn
    · rintro channel payload later rfl hlong
      have hmember : (channel, payload) ∈ packets := by
        rw [hpackets]
        exact List.mem_append_right before List.mem_cons_self
      exact on_readPacket_of_long hlast.isOpen hlast.bytes (hfit _ hmember) hlong
    · rintro rfl
      have hshort : (readPacket.afterTurns reader before.length).source.bytes.length < 5 := by
        rw [hlast.bytes]
        decide
      rcases on_readRaw_of_short hlast.isOpen hshort with ⟨left, hread, hclosed⟩
      rw [hlast.ending] at hread
      exact ⟨left, on_bind_of_error hread _, hclosed⟩

def overlongPayload : Bytes :=
  List.replicate 1048577 0x61

/-- A packet of two bytes, one that is too long, and another one. -/
def unevenPackets : List (UInt8 × Bytes) :=
  [(1, [0x68, 0x69]), (2, overlongPayload), (3, [])]

theorem packets_read_back_overlong :
    let stream := unevenPackets.flatMap fun packet =>
      packet.1 :: (Bytes.leBytes 4 packet.2.length ++ packet.2)
    let writer := Connection.ofPeer ⟨[], .finished⟩ .unlimited
    let reader := Connection.ofPeer ⟨[stream.take 3, stream.drop 3], .finished⟩ .unlimited
    ((∀ packet ∈ unevenPackets, packet.2.length < 0x100000000) ∧ writer.Takes stream ∧
        reader.source.bytes = stream) ∧
      (unevenPackets.forM fun packet => writePacket packet.1 packet.2).on writer =
        (.ok (), writer.taking stream) ∧
      readPacket.atTurn reader 0 = .ok (1, [0x68, 0x69]) ∧
      ∃ left, readPacket.on (readPacket.afterTurns reader 1) =
          (.error (.protocol "peer announced 1048577 bytes, limit is 1048576"), left) ∧
        left.isOpen = false ∧ left.source.bytes = overlongPayload ++ [3, 0, 0, 0, 0] := by
  intro stream writer reader
  have hlength : overlongPayload.length = 1048577 := List.length_replicate
  have hfit : ∀ packet ∈ unevenPackets, packet.2.length < 0x100000000 := by
    simp [unevenPackets, hlength]
  have htakes : writer.Takes stream := ⟨rfl, nofun⟩
  have hbytes : reader.source.bytes = stream := by
    simp [reader, Connection.ofPeer, Source.bytes]
  rcases packets_read_back unevenPackets hfit with ⟨hwrite, hread⟩
  have hsmall : ∀ packet ∈ [((1 : UInt8), ([0x68, 0x69] : Bytes))], packet.2.length ≤ 1048576 := by
    decide
  rcases hread reader rfl hbytes [(1, [0x68, 0x69])] [(2, overlongPayload), (3, [])] rfl hsmall with
    ⟨hturns, -, hlong, -⟩
  have hmore : 1048576 < overlongPayload.length := by
    rw [hlength]
    decide
  rcases hlong 2 overlongPayload [(3, [])] rfl hmore with ⟨left, hrefused, hclosed, hrest⟩
  have htext : "peer announced " ++ toString overlongPayload.length ++ " bytes, limit is 1048576" =
      "peer announced 1048577 bytes, limit is 1048576" := by
    rw [hlength]
    decide
  rw [htext] at hrefused
  exact ⟨⟨hfit, htakes, hbytes⟩, hwrite writer htakes, hturns 0 (by decide), left, hrefused,
    hclosed, hrest⟩

end EmulatorHost.Adb.Exchange
