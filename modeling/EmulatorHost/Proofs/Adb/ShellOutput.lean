import EmulatorHost.Proofs.Adb.Framing
import EmulatorHost.Proofs.Adb.Handshake
import EmulatorHost.Proofs.Adb.Packets
import EmulatorHost.Proofs.Adb.ShellInput

/-!
# What a client hears of a shell

A reader hands on the outputs of the device one after another, up to the first packet that is none.
That packet gives the last result, an exit code or a failure, and from then on every receive says that
the shell has exited or that the connection is closed. Writing goes on by itself all the while. The
main statement is `receives_up_to_last`.
-/

namespace EmulatorHost.Adb.Shell

open Exchange

/-! ## What the bytes of the device come to -/

inductive Output : UInt8 → Bytes → Event → Prop where
  | stdout (data : Bytes) : Output 1 data (.stdout data)
  | stderr (data : Bytes) : Output 2 data (.stderr data)

theorem Output.ne_exit {channel : UInt8} {data : Bytes} {event : Event}
    (houtput : Output channel data event) (code : UInt8) : event ≠ .exit code := by
  intro hexit
  subst hexit
  cases houtput

inductive Last (ending : Ending) : Bytes → Except Error Event → Prop where
  -- What a receive comes to when no output follows.
  | exit (payload rest : Bytes) :
      payload.length ≤ 1048576 →
      Last ending (3 :: (Bytes.leBytes 4 payload.length ++ payload) ++ rest)
        (.ok (.exit (payload.headD 0)))
  | stray (channel : UInt8) (payload rest : Bytes) :
      channel ≠ 1 → channel ≠ 2 → channel ≠ 3 → payload.length ≤ 1048576 →
      Last ending (channel :: (Bytes.leBytes 4 payload.length ++ payload) ++ rest)
        (.error (.protocol ("shell channel " ++ toString channel.toNat)))
  | overlong (channel : UInt8) (number rest : Bytes) :
      number.length = 4 → 1048576 < Bytes.leValue number →
      Last ending (channel :: number ++ rest)
        (.error (.protocol ("peer announced " ++ toString (Bytes.leValue number) ++
          " bytes, limit is 1048576")))
  | cutPayload (channel : UInt8) (number payload : Bytes) :
      number.length = 4 → Bytes.leValue number ≤ 1048576 →
      payload.length < Bytes.leValue number →
      Last ending (channel :: number ++ payload) (.error (.io ending.shortRead))
  | cutHeader (bytes : Bytes) :
      bytes.length < 5 → Last ending bytes (.error (.io ending.shortRead))

/-- The bytes of the device are these outputs and then what gives the last result. -/
inductive Yields (ending : Ending) : Bytes → List Event → Except Error Event → Prop where
  | output {channel : UInt8} {data rest : Bytes} {event : Event} {events : List Event}
      {last : Except Error Event} :
      Output channel data event → data.length ≤ 1048576 → Yields ending rest events last →
      Yields ending (channel :: (Bytes.leBytes 4 data.length ++ data) ++ rest)
        (event :: events) last
  | last {bytes : Bytes} {last : Except Error Event} :
      Last ending bytes last → Yields ending bytes [] last

/-- What a receive comes to after the last result. -/
def afterLast : Except Error Event → Except Error Event
  | .ok _ => .ok .exited
  | .error _ => .error .closed

theorem yields_of_packet (channel : UInt8) {payload rest : Bytes}
    (hlimit : payload.length ≤ 1048576)
    (hrest : ∃ events last, Yields ending rest events last) :
    ∃ events last,
      Yields ending (channel :: (Bytes.leBytes 4 payload.length ++ payload) ++ rest) events last := by
  rcases hrest with ⟨events, last, hyields⟩
  by_cases hout : channel = 1
  · subst hout
    exact ⟨_, _, .output (.stdout payload) hlimit hyields⟩
  by_cases herr : channel = 2
  · subst herr
    exact ⟨_, _, .output (.stderr payload) hlimit hyields⟩
  by_cases hexit : channel = 3
  · subst hexit
    exact ⟨_, _, .last (.exit payload rest hlimit)⟩
  · exact ⟨_, _, .last (.stray channel payload rest hout herr hexit hlimit)⟩

theorem exists_yields (ending : Ending) (bytes : Bytes) :
    ∃ events last, Yields ending bytes events last := by
  -- On the length: a whole packet is followed by fewer bytes.
  induction hlength : bytes.length using Nat.strongRecOn generalizing bytes with
  | ind length ih =>
      by_cases hheader : bytes.length < 5
      · exact ⟨_, _, .last (.cutHeader bytes hheader)⟩
      rcases bytes with _ | ⟨channel, tail⟩
      · exact absurd (by decide) hheader
      have hfour : 4 ≤ tail.length := by
        rw [List.length_cons] at hheader
        omega
      rcases Bytes.exists_front hfour with ⟨number, rest, hnumber, rfl⟩
      by_cases hlong : 1048576 < Bytes.leValue number
      · exact ⟨_, _, .last (.overlong channel number rest hnumber hlong)⟩
      have hlimit : Bytes.leValue number ≤ 1048576 := Nat.le_of_not_lt hlong
      by_cases hcut : rest.length < Bytes.leValue number
      · exact ⟨_, _, .last (.cutPayload channel number rest hnumber hlimit hcut)⟩
      rcases Bytes.exists_front (Nat.le_of_not_lt hcut) with ⟨payload, later, hpayload, rfl⟩
      have hwhole : number = Bytes.leBytes 4 payload.length := by
        rw [hpayload, ← hnumber, Bytes.leBytes_leValue]
      have hless : later.length < length := by
        rw [← hlength]
        simp only [List.length_cons, List.length_append]
        omega
      rw [← hpayload] at hlimit
      have hpacket := yields_of_packet channel hlimit (ih later.length hless later rfl)
      rw [← hwhole] at hpacket
      simpa using hpacket

/-! ## One receive -/

theorem reads_receivePacket {channel : UInt8} {data : Bytes} {event : Event}
    (houtput : Output channel data event) (hlimit : data.length ≤ 1048576) :
    Reads receivePacket (channel :: (Bytes.leBytes 4 data.length ++ data)) event := by
  intro connection rest hopen hbytes
  rcases reads_readPacket hlimit channel connection rest hopen hbytes with ⟨left, hleft, hread⟩
  refine ⟨left, hleft, ?_⟩
  rw [receivePacket, on_bind_of_ok hread]
  cases houtput <;> rfl

/-- A whole packet that is no output closes the connection. -/
theorem on_receivePacket_of_packet {connection : Connection} {channel : UInt8}
    {payload rest : Bytes} (hopen : connection.isOpen = true)
    (hbytes : connection.source.bytes =
      channel :: (Bytes.leBytes 4 payload.length ++ payload) ++ rest)
    (hlimit : payload.length ≤ 1048576) (hout : channel ≠ 1) (herr : channel ≠ 2) :
    ∃ left, left.isOpen = false ∧
      receivePacket.on connection =
        (if channel = 3 then .ok (.exit (payload.headD 0))
          else .error (.protocol ("shell channel " ++ toString channel.toNat)), left) := by
  rcases reads_readPacket hlimit channel connection rest hopen hbytes with ⟨left, hleft, hread⟩
  refine ⟨{ left with isOpen := false }, rfl, ?_⟩
  rw [receivePacket, on_bind_of_ok hread]
  by_cases hexit : channel = 3
  · subst hexit
    rfl
  · simp [Channel.number, hout, herr, hexit]

theorem on_receivePacket_of_last {connection : Connection} {last : Except Error Event}
    (hopen : connection.isOpen = true)
    (hlast : Last connection.source.ending connection.source.bytes last) :
    ∃ left, left.isOpen = false ∧ receivePacket.on connection = (last, left) := by
  generalize hbytes : connection.source.bytes = bytes at hlast
  cases hlast with
  | exit payload rest hlimit =>
      exact on_receivePacket_of_packet hopen hbytes hlimit (by decide) (by decide)
  | stray channel payload rest hout herr hexit hlimit =>
      simpa [hexit] using on_receivePacket_of_packet hopen hbytes hlimit hout herr
  | overlong channel number rest hnumber hlong =>
      rcases on_readPacket_of_overlong hopen hnumber hbytes hlong with ⟨left, hread, hclosed, -⟩
      exact ⟨left, hclosed, on_bind_of_error hread _⟩
  | cutPayload channel number payload hnumber hlimit hcut =>
      -- The header is read, and what it announces is more than there is.
      rcases on_readPacket_of_header hopen hnumber hbytes with ⟨middle, hmiddle, hread⟩
      rcases on_readRaw_of_cut hmiddle hcut with ⟨left, hfail, hclosed⟩
      have hblock : readBlock (Bytes.leValue number) maxPacketLength =
          readRaw (Bytes.leValue number) := if_pos hlimit
      rw [hblock, on_bind_of_error hfail] at hread
      exact ⟨left, hclosed, on_bind_of_error hread _⟩
  | cutHeader bytes hshort =>
      rw [← hbytes] at hshort
      rcases on_readRaw_of_short hopen hshort with ⟨left, hfail, hclosed⟩
      exact ⟨left, hclosed, on_bind_of_error (on_bind_of_error hfail _) _⟩

namespace Reader

/-- A reader that can go on: it has not exited, and its connection is open. -/
def IsRunning (reader : Reader) : Prop :=
  reader.hasExited = false ∧ reader.connection.isOpen = true

theorem receive_of_reads {reader : Reader} {block rest : Bytes} {event : Event}
    (hrunning : reader.IsRunning) (hreads : Reads receivePacket block event)
    (hevent : ∀ code, event ≠ .exit code)
    (hbytes : reader.connection.source.bytes = block ++ rest) :
    ∃ left, reader.receive = (.ok event, left) ∧ left.IsRunning ∧
      left.connection.source.bytes = rest ∧
      left.connection.source.ending = reader.connection.source.ending := by
  rcases hreads reader.connection rest hrunning.2 hbytes with ⟨left, hleft, hread⟩
  refine ⟨⟨left, false⟩, ?_, ⟨rfl, hleft.isOpen⟩, hleft.bytes, hleft.ending⟩
  rw [receive, hrunning.1, hread]
  cases event with
  | exit code =>
      exact absurd rfl (hevent code)
  | _ =>
      rfl

/-- Every receive gives the same, and changes nothing. -/
def Stays (reader : Reader) (outcome : Except Error Event) : Prop :=
  reader.receive = (outcome, reader)

theorem stays_exited {reader : Reader} (hexited : reader.hasExited = true) :
    reader.Stays (.ok .exited) := by
  simp [Stays, receive, hexited]

theorem stays_closed {reader : Reader} (hexited : reader.hasExited = false)
    (hclosed : reader.connection.isOpen = false) : reader.Stays (.error .closed) := by
  have hheader := on_readRaw_of_closed 5 hclosed
  have hpacket : receivePacket.on reader.connection = (.error .closed, reader.connection) :=
    on_bind_of_error (on_bind_of_error hheader _) _
  rcases reader with ⟨connection, _⟩
  cases hexited
  simp [Stays, receive, hpacket]

theorem receive_of_last {reader : Reader} {last : Except Error Event}
    (hrunning : reader.IsRunning)
    (hlast : Last reader.connection.source.ending reader.connection.source.bytes last) :
    ∃ left, reader.receive = (last, left) ∧ left.Stays (afterLast last) := by
  rcases on_receivePacket_of_last hrunning.2 hlast with ⟨left, hclosed, hread⟩
  rw [receive, hrunning.1, hread]
  generalize reader.connection.source.bytes = bytes at hlast
  cases hlast with
  | exit payload rest _ =>
      exact ⟨⟨left, true⟩, rfl, stays_exited rfl⟩
  | _ =>
      exact ⟨⟨left, false⟩, rfl, stays_closed rfl hclosed⟩

/-! ## Receive after receive -/

/-- What the receive after so many others comes to. -/
def outcomeAt (reader : Reader) : Nat → Except Error Event
  | 0 => reader.receive.1
  | turn + 1 => reader.receive.2.outcomeAt turn

theorem Stays.outcomeAt {reader : Reader} {outcome : Except Error Event}
    (hstays : reader.Stays outcome) (turn : Nat) : reader.outcomeAt turn = outcome := by
  induction turn with
  | zero =>
      exact congrArg Prod.fst hstays
  | succ turn ih =>
      rw [Reader.outcomeAt, hstays]
      exact ih

/-- The outputs come at their turns, then the last result, and ever after the same. -/
theorem outcomeAt_of_yields {reader : Reader} {events : List Event} {last : Except Error Event}
    (hrunning : reader.IsRunning)
    (hyields : Yields reader.connection.source.ending reader.connection.source.bytes events last)
    (turn : Nat) :
    reader.outcomeAt turn = (events.map Except.ok ++ [last]).getD turn (afterLast last) := by
  -- On the packets: each output takes one receive, and the last one settles all that come later.
  generalize hending : reader.connection.source.ending = ending at hyields
  generalize hbytes : reader.connection.source.bytes = bytes at hyields
  induction hyields generalizing reader turn with
  | output houtput hlimit _ ih =>
      have hreads := reads_receivePacket houtput hlimit
      rcases receive_of_reads hrunning hreads houtput.ne_exit hbytes with
        ⟨left, hreceive, hleft, hrest, hsame⟩
      cases turn with
      | zero =>
          simp [outcomeAt, hreceive]
      | succ turn =>
          simpa [outcomeAt, hreceive] using ih hleft turn (hsame.trans hending) hrest
  | last hlast =>
      subst hending
      subst hbytes
      rcases receive_of_last hrunning hlast with ⟨left, hreceive, hstays⟩
      cases turn with
      | zero =>
          simp [outcomeAt, hreceive]
      | succ turn =>
          simpa [outcomeAt, hreceive] using hstays.outcomeAt turn

end Reader

/-! ## Both directions -/

inductive Call where
  | receive
  | write (input : Input)
deriving DecidableEq

def Call.input? : Call → Option Input
  | receive => none
  | write input => some input

structure Transcript where
  received : List (Except Error Event)
  written : List (Except Error Unit)
  reader : Reader
  writer : Writer

/-- Does the calls of a client in turn, each on its direction of the session. -/
def run (reader : Reader) (writer : Writer) : List Call → Transcript
  | [] => ⟨[], [], reader, writer⟩
  | .receive :: later =>
    let (outcome, left) := reader.receive
    let rest := run left writer later
    { rest with received := outcome :: rest.received }
  | .write input :: later =>
    let (outcome, left) := writer.write input
    let rest := run reader left later
    { rest with written := outcome :: rest.written }

theorem received_run (reader : Reader) (writer : Writer) (calls : List Call) :
    (run reader writer calls).received =
      (List.range (calls.count .receive)).map reader.outcomeAt := by
  -- On the calls: a write leaves the reader where it is.
  induction calls generalizing reader writer with
  | nil =>
      rfl
  | cons call later ih =>
      cases call with
      | receive =>
          simp [run, ih, List.range_succ_eq_map, Reader.outcomeAt]
      | write input =>
          simp [run, ih]

theorem written_run (reader : Reader) (writer : Writer) (calls : List Call) :
    ((run reader writer calls).written, (run reader writer calls).writer) =
      writeAll writer (calls.filterMap Call.input?) := by
  -- The same the other way round: a receive leaves the writer where it is.
  induction calls generalizing reader writer with
  | nil =>
      rfl
  | cons call later ih =>
      cases call with
      | receive =>
          exact ih reader.receive.2 writer
      | write input =>
          simp [run, Call.input?, writeAll, ← ih reader (writer.write input).2]

/-- The connection is open after a request that was accepted, and what the daemon sends after its
status is still to come. -/
theorem onward_of_open {request : Request} {connection opened : Connection}
    (hopened : («open» request).on connection = (.ok (), opened)) :
    ∃ stream, connection.source.bytes = Bytes.ofString "OKAY" ++ stream ∧
      opened.isOpen = true ∧ opened.source.bytes = stream ∧
      opened.source.ending = connection.source.ending := by
  have hopen := isOpen_of_sendCommand_ok hopened
  rcases (trades_sendCommand _).demands hopen hopened with ⟨-, -, stream, hbytes, hleft⟩
  rw [← ofString_okay] at hbytes
  exact ⟨stream, hbytes, hleft.isOpen, hleft.bytes, hleft.ending⟩

/-- Once a shell is open, the bytes after the accepting status come to outputs and one last result.
However a client mixes its calls, the receives give the outputs in order, then the last result, and
from then on always the same: that the shell has exited if there was an exit code, and that the
connection is closed if there was a failure. The writes do as they would without any receive, so
they succeed as long as the peer takes what they write. -/
theorem receives_up_to_last (request : Request) (connection opened : Connection)
    (hopened : («open» request).on connection = (.ok (), opened)) :
    ∃ stream, connection.source.bytes = Bytes.ofString "OKAY" ++ stream ∧
      (∃ events last, Yields connection.source.ending stream events last) ∧
      ∀ events last, Yields connection.source.ending stream events last →
        ∀ calls : List Call,
          let transcript := run (split opened).1 (split opened).2 calls
          let inputs := calls.filterMap Call.input?
          transcript.received = (List.range (calls.count .receive)).map
            (fun turn => (events.map Except.ok ++ [last]).getD turn (afterLast last)) ∧
          (transcript.written, transcript.writer) = writeAll (split opened).2 inputs ∧
          ((∀ input ∈ inputs, input.Fits) → opened.Takes (inputs.flatMap Input.frame) →
            (∀ outcome ∈ transcript.written, outcome = .ok ()) ∧
            transcript.writer.connection.sink.sent =
              opened.sink.sent ++ inputs.flatMap Input.frame) := by
  rcases onward_of_open hopened with ⟨stream, hbytes, hopen, hrest, hending⟩
  refine ⟨stream, hbytes, exists_yields _ _, ?_⟩
  intro events last hyields calls transcript inputs
  have hrunning : (split opened).1.IsRunning := ⟨rfl, hopen⟩
  rw [← hending, ← hrest] at hyields
  have hwritten : (transcript.written, transcript.writer) = writeAll (split opened).2 inputs :=
    written_run _ _ calls
  refine ⟨?_, hwritten, ?_⟩
  · calc transcript.received
        = (List.range (calls.count .receive)).map (split opened).1.outcomeAt :=
          received_run _ _ calls
      _ = _ := List.map_congr_left fun turn _ => Reader.outcomeAt_of_yields hrunning hyields turn
  · intro hfit htakes
    have hall := @writeAll_of_takes (split opened).2 inputs hfit htakes
    rw [hall, Prod.mk.injEq] at hwritten
    simp [hwritten, split, Connection.taking, Sink.taking]

/-- What the device sends in a short session: an output on either channel, the exit code 7, and
another output that comes too late. -/
def shortStream : Bytes :=
  [1, 2, 0, 0, 0, 0x68, 0x69] ++ [2, 1, 0, 0, 0, 0x21] ++ [3, 1, 0, 0, 0, 7] ++
    [1, 1, 0, 0, 0, 0x78]

theorem yields_shortStream :
    Yields .finished shortStream [.stdout [0x68, 0x69], .stderr [0x21]] (.ok (.exit 7)) := by
  have hexit : Last .finished ([3, 1, 0, 0, 0, 7] ++ [1, 1, 0, 0, 0, 0x78]) (.ok (.exit 7)) :=
    .exit [7] _ (by decide)
  have herror : Yields .finished
      ([2, 1, 0, 0, 0, 0x21] ++ ([3, 1, 0, 0, 0, 7] ++ [1, 1, 0, 0, 0, 0x78])) _ _ :=
    .output (.stderr [0x21]) (by decide) (.last hexit)
  exact .output (.stdout [0x68, 0x69]) (by decide) herror

theorem receives_up_to_last_exit :
    let request : Request := ⟨.raw, none, none⟩
    let segments := [Bytes.ofString "OK", Bytes.ofString "AY" ++ shortStream.take 3,
      shortStream.drop 3]
    let connection := Connection.ofPeer ⟨segments, .finished⟩ .unlimited
    let calls : List Call := [.receive, .receive, .receive, .write .close, .receive, .receive]
    ∃ opened, («open» request).on connection = (.ok (), opened) ∧
      (run (split opened).1 (split opened).2 calls).received =
        [.ok (.stdout [0x68, 0x69]), .ok (.stderr [0x21]), .ok (.exit 7), .ok .exited,
          .ok .exited] ∧
      (run (split opened).1 (split opened).2 calls).writer.connection.sink.sent =
        opened.sink.sent ++ [4, 0, 0, 0, 0] := by
  intro request segments connection calls
  have hfits : (Bytes.ofString request.service).length ≤ maxMessageLength := by decide
  have htakes : connection.Takes (messageFrame (Bytes.ofString request.service)) := ⟨rfl, nofun⟩
  have hbytes : connection.source.bytes = statusOkay ++ shortStream := by decide
  rcases (trades_sendCommand _).succeeds hfits htakes hbytes with ⟨opened, honward, hopened⟩
  rcases receives_up_to_last request connection opened hopened with ⟨stream, hstream, -, hall⟩
  have hsame : shortStream = stream := by
    rw [hbytes, ofString_okay] at hstream
    exact List.append_cancel_left hstream
  subst hsame
  rcases hall _ _ yields_shortStream calls with ⟨hreceived, -, hwritten⟩
  have hroom : opened.Takes [4, 0, 0, 0, 0] := by
    refine honward.takes ⟨rfl, ?_⟩
    nofun
  have hfit : ∀ input ∈ calls.filterMap Call.input?, input.Fits := by
    simp [calls, Call.input?, Input.Fits, Input.numbered?, Input.packet?]
  exact ⟨opened, hopened, hreceived, (hwritten hfit hroom).2⟩

end EmulatorHost.Adb.Shell
