import EmulatorHost.CommandLine.Program
import EmulatorHost.Proofs.Adb.Pull
import EmulatorHost.Proofs.Agent.DeviceCalls
import EmulatorHost.Proofs.CommandLine.Push
import EmulatorHost.Proofs.Files

/-!
# Pulling a file of the device

From the bytes that the daemon sends to the local file, whatever the bytes are. The agent turns each
data frame into one item and tells the end by one last response; the command line writes the items
down, and succeeds if the last response is the mark of a complete transfer. The main statement is
`pulls_whole_file`.
-/

namespace EmulatorHost

open Adb Adb.Sync Adb.Exchange Agent

/-! ## The agent's part -/

namespace Adb.Sync

/-- The bytes begin with a whole transfer: these chunks, and the header of a closing frame. -/
def Transfers (bytes : Bytes) (chunks : List Chunk) : Prop :=
  ∃ number after, number.length = 4 ∧
    bytes = chunks.flatMap Chunk.frame ++ (Bytes.ofString "DONE" ++ number ++ after)

theorem completes_closing {number : Bytes} (hnumber : number.length = 4) (after : Bytes) :
    Completes (Bytes.ofString "DONE" ++ number ++ after) := by
  have hletters : (Bytes.ofString "DONE").length = 4 := by decide
  have hdone : Bytes.ofString "DONE" = Tag.done.bytes := by decide
  exact (completes_iff hletters hnumber).mpr hdone

theorem transfers_of_completes {bytes rest : Bytes} {chunks : List Chunk}
    (hsplit : Bytes.Split Chunk.frame bytes chunks rest) (hcomplete : Completes rest) :
    Transfers bytes chunks := by
  rcases exists_header hcomplete.1 with ⟨letters, number, after, hletters, hnumber, hrest⟩
  have htake : rest.take 4 = letters := by
    rw [hrest, List.append_assoc, List.take_left' hletters]
  have hdone : letters = Bytes.ofString "DONE" := htake.symm.trans hcomplete.2
  refine ⟨number, after, hnumber, ?_⟩
  rw [← hdone, ← hrest]
  exact hsplit.bytes_eq

/-- A whole transfer can be seen in one way only, and what follows its chunks closes it. -/
theorem eq_of_transfers {bytes rest : Bytes} {chunks whole : List Chunk}
    (hsplit : Bytes.Split Chunk.frame bytes chunks rest) (hwhole : Transfers bytes whole) :
    whole = chunks ∧ Completes rest := by
  rcases hwhole with ⟨number, after, hnumber, rfl⟩
  have hclosing := completes_closing hnumber after
  have hsame := (split_of_completes whole hclosing).unique selfDelimiting_frame hsplit
  exact ⟨hsame.1, hsame.2 ▸ hclosing⟩

end Adb.Sync

namespace Agent

def PullItem.ofChunk (chunk : Chunk) : PullItem :=
  ⟨chunk.bytes, false⟩

def PullItem.mark : PullItem :=
  ⟨[], true⟩

theorem pullItems_succ (fuel : Nat) (connection : Connection) :
    pullItems (fuel + 1) connection =
      match receive.on connection with
      | (.ok (some data), left) =>
        ((pullItems fuel left).1.cons ⟨data, false⟩, (pullItems fuel left).2)
      | (.ok none, left) => (⟨[.mark], none⟩, left)
      | (.error error, left) => (.failed error.status, left) := by
  rw [pullItems]
  rcases hreceive : receive.on connection with ⟨error | _ | data, left⟩
  all_goals
    change receive.run connection = _ at hreceive
    simp only [bind, StateT.bind, hreceive]
    rfl

/-- An opened pull tells the chunks with which the bytes to come begin, and then once how they end. -/
theorem pullItems_of_split {fuel : Nat} {connection : Connection} {chunks : List Chunk}
    {rest : Bytes} (hopen : connection.isOpen = true)
    (hfuel : connection.source.bytes.length < fuel)
    (hsplit : Bytes.Split Chunk.frame connection.source.bytes chunks rest) :
    (Completes rest ∧ ∃ left, pullItems fuel connection =
        (⟨chunks.map .ofChunk ++ [.mark], none⟩, left)) ∨
      (¬ Completes rest ∧ ∃ status left, pullItems fuel connection =
        (⟨chunks.map .ofChunk, some status⟩, left)) := by
  -- On the chunks. Each takes a byte at least, so that the fuel lasts to the end of them.
  induction chunks generalizing connection fuel with
  | nil =>
      cases fuel with
      | zero =>
          exact absurd hfuel (Nat.not_lt_zero _)
      | succ fuel =>
          have hrest : connection.source.bytes = rest := hsplit.bytes_eq
          have hended : ∀ (chunk : Chunk) after, connection.source.bytes ≠ chunk.frame ++ after :=
            hrest ▸ hsplit.ended
          rw [pullItems_succ]
          rcases receive_of_ended hopen hended with ⟨hcomplete, left, hdone, -⟩ | ⟨hnot, hbreaks⟩
          · rw [hdone]
            exact .inl ⟨hrest ▸ hcomplete, left, rfl⟩
          · rcases hbreaks with ⟨error, left, hfail, -⟩
            rw [hfail]
            exact .inr ⟨hrest ▸ hnot, error.status, left, rfl⟩
  | cons chunk chunks ih =>
      cases fuel with
      | zero =>
          exact absurd hfuel (Nat.not_lt_zero _)
      | succ fuel =>
          have hbytes : connection.source.bytes =
              chunk.frame ++ (chunks.flatMap Chunk.frame ++ rest) := by
            rw [hsplit.bytes_eq, List.flatMap_cons, List.append_assoc]
          rcases on_receive_of_frame hopen hbytes with ⟨middle, hmiddle, hfirst⟩
          have hpos : 0 < chunk.frame.length :=
            List.length_pos_iff.mpr (selfDelimiting_frame.nonempty chunk)
          have hless : middle.source.bytes.length < fuel := by
            rw [hmiddle.bytes]
            rw [hbytes, List.length_append] at hfuel
            omega
          have hlater := ih hmiddle.isOpen hless ⟨hmiddle.bytes, hsplit.ended⟩
          rw [pullItems_succ, hfirst]
          dsimp only
          rcases hlater with ⟨hcomplete, left, hrun⟩ | ⟨hnot, status, left, hrun⟩
          · exact .inl ⟨hcomplete, left, by rw [hrun]; rfl⟩
          · exact .inr ⟨hnot, status, left, by rw [hrun]; rfl⟩

theorem pullSession_of_split {remote : String} {peer : Peer} {reply rest : Bytes}
    {chunks : List Chunk} (hpath : (Bytes.ofString remote).length < Bytes.limit 4)
    (hreply : peer.source.bytes = Bytes.ofString "OKAY" ++ (Bytes.ofString "OKAY" ++ reply))
    (hsplit : Bytes.Split Chunk.frame reply chunks rest) :
    (Completes rest ∧ ∃ left, pullSession remote (dialledTo peer) =
        (.ok ⟨chunks.map .ofChunk ++ [.mark], none⟩, left)) ∨
      (¬ Completes rest ∧ ∃ status left, pullSession remote (dialledTo peer) =
        (.ok ⟨chunks.map .ofChunk, some status⟩, left)) := by
  rcases on_openSync_dialledTo hreply with ⟨opened, hopened, htakes, hswitch⟩
  let request := pathRequest .receive (Bytes.ofString remote) ++
    (Tag.receive.bytes ++ Bytes.ofWord32 0)
  have hopen : (Client.openPull remote).on (dialledTo peer) =
      (.ok (), opened.taking request) := by
    have hwrite : (openPull remote).on opened = (writeRaw request).on opened := by
      rw [openPull, writePathRequest, if_pos hpath]
    rw [Client.openPull, on_bind_of_ok hswitch]
    exact hwrite.trans (on_writeRaw_of_takes (htakes request))
  have hrun : pullSession remote (dialledTo peer) =
      (.ok (pullItems (opened.source.size + 1) (opened.taking request)).1,
        (pullItems (opened.source.size + 1) (opened.taking request)).2) :=
    Sequence.bind_of_ok (ofExchange_of_ok hopen) _
  have hstream : Bytes.Split Chunk.frame (opened.taking request).source.bytes chunks rest := by
    have hbytes : (opened.taking request).source.bytes = reply := hopened.bytes
    rw [hbytes]
    exact hsplit
  have hfuel : (opened.taking request).source.bytes.length < opened.source.size + 1 :=
    Nat.lt_succ_self _
  have hisOpen : (opened.taking request).isOpen = true := hopened.isOpen
  have hitems := pullItems_of_split hisOpen hfuel hstream
  rw [hrun]
  rcases hitems with ⟨hcomplete, left, hpull⟩ | ⟨hnot, status, left, hpull⟩
  · exact .inl ⟨hcomplete, left, by rw [hpull]⟩
  · exact .inr ⟨hnot, status, left, by rw [hpull]⟩

end Agent

/-! ## The command line's part -/

namespace CommandLine

theorem Pull.content_of_chunks (chunks : List Chunk) (later : List PullItem) :
    Pull.content (chunks.map .ofChunk ++ later) = chunks.flatMap (·.bytes) ++ Pull.content later := by
  induction chunks with
  | nil =>
      rfl
  | cons chunk chunks ih =>
      rw [List.flatMap_cons, List.append_assoc, ← ih]
      rfl

namespace Job

/-- What comes of a pull once its stream has come and its content is written. -/
theorem pull_of_stream {remote localPath : String} {desk : Desk} {stream : ServerStream PullItem}
    {daemon : Daemon} {files : Files}
    (hserved : pullFile desk.host.plane remote desk.host.daemon = (.ok stream, daemon))
    (hwrite : desk.files.write localPath (Pull.content stream.items) Files.newFileMode =
      .ok files) :
    pull remote localPath desk =
      match Pull.failure stream with
      | some status =>
        (.error (.status status), { desk with host := { desk.host with daemon }, files })
      | none =>
        (.ok (.exited 0), { desk with
          host := { desk.host with daemon }
          files
          stdout := desk.stdout ++ Bytes.ofString
            (toString (Pull.content stream.items).length ++ " bytes written to " ++ localPath ++
              "\n") }) := by
  have hcall := callDevice_of_ok (pullFile · remote) hserved
  rw [pull, Sequence.bind_of_ok hcall]
  dsimp only
  rw [Sequence.get_bind]
  simp only [hwrite]
  cases Pull.failure stream <;> rfl

end Job

/-- Whatever the daemon answers to a pull, while the emulator runs and the local file can be made:
the agent tells the payloads of the data frames with which the answer begins, in order, and then one
last response, which is the mark if the header of a closing frame comes there, and otherwise a
status. The run succeeds exactly if the answer begins with a whole transfer; then what is printed is
the length of all its payloads. The payloads that came are in the local file in any case. -/
theorem pulls_whole_file (remote localPath : String) (desk : Desk) (peer : Peer) (reach : Reach)
    (reply : Bytes) (hpath : (Bytes.ofString remote).length < 0x100000000)
    (hrunning : desk.host.plane.phase = .running)
    (hdial : Daemon.dial desk.host.daemon.reach = .ok (peer, reach))
    (hreply : peer.source.bytes = Bytes.ofString "OKAY" ++ (Bytes.ofString "OKAY" ++ reply))
    (hwritable : ∃ files, desk.files.write localPath [] Files.newFileMode = .ok files) :
    ∃ chunks rest stream daemon last outcome left,
      Bytes.Split Chunk.frame reply chunks rest ∧
      pullFile desk.host.plane remote desk.host.daemon = (.ok stream, daemon) ∧
      stream.responses = chunks.map (fun chunk => .ok ⟨chunk.bytes, false⟩) ++ [last] ∧
      (Completes rest → last = .ok ⟨[], true⟩) ∧
      (¬ Completes rest → ∃ status, last = .error status ∧ outcome = .error (.status status)) ∧
      (Job.ofCommand (.pull remote localPath)).run desk = (outcome, left) ∧
      left.files.read localPath = .ok (chunks.flatMap (·.bytes)) ∧
      (outcome = .ok (.exited 0) ↔ ∃ whole, Transfers reply whole) ∧
      ∀ whole, Transfers reply whole →
        left.files.read localPath = .ok (whole.flatMap (·.bytes)) ∧
        left.stdout = desk.stdout ++ Bytes.ofString
          (toString (whole.flatMap (·.bytes)).length ++ " bytes written to " ++ localPath ++
            "\n") := by
  rcases Bytes.exists_split selfDelimiting_frame reply with ⟨chunks, rest, hsplit⟩
  rcases hwritable with ⟨_, hempty⟩
  rcases Files.exists_write hempty (chunks.flatMap (·.bytes)) with ⟨files, hwrite⟩
  have hread := Files.read_of_write hwrite
  rcases pullSession_of_split hpath hreply hsplit with
    ⟨hcomplete, connection, hsession⟩ | ⟨hnot, status, connection, hsession⟩
  · have hserved := onDevice_of_dial hrunning hdial hsession
    have hcontent : Pull.content (chunks.map .ofChunk ++ [.mark]) = chunks.flatMap (·.bytes) := by
      rw [Pull.content_of_chunks]
      exact List.append_nil _
    have hfailure : Pull.failure ⟨chunks.map .ofChunk ++ [.mark], none⟩ = none := by
      simp [Pull.failure]
    rw [← hcontent] at hwrite
    have hrun := Job.pull_of_stream hserved hwrite
    rw [hfailure, hcontent] at hrun
    refine ⟨chunks, rest, _, _, .ok .mark, _, _, hsplit, hserved, ?_, fun _ => rfl, ?_, hrun, hread,
      ?_, ?_⟩
    · simp [ServerStream.responses, PullItem.ofChunk, Function.comp_def]
    · intro hnot
      exact absurd hcomplete hnot
    · exact ⟨fun _ => ⟨chunks, transfers_of_completes hsplit hcomplete⟩, fun _ => rfl⟩
    · intro whole hwhole
      rcases eq_of_transfers hsplit hwhole with ⟨rfl, -⟩
      exact ⟨hread, rfl⟩
  · have hserved := onDevice_of_dial hrunning hdial hsession
    have hcontent : Pull.content (chunks.map .ofChunk) = chunks.flatMap (·.bytes) := by
      have happend := Pull.content_of_chunks chunks []
      rw [List.append_nil] at happend
      exact happend.trans (List.append_nil _)
    have hfailure : Pull.failure ⟨chunks.map .ofChunk, some status⟩ = some status := by
      simp [Pull.failure, PullItem.ofChunk]
    rw [← hcontent] at hwrite
    have hrun := Job.pull_of_stream hserved hwrite
    rw [hfailure] at hrun
    have hnone : ∀ whole, ¬ Transfers reply whole := by
      intro whole hwhole
      exact hnot (eq_of_transfers hsplit hwhole).2
    refine ⟨chunks, rest, _, _, .error status, _, _, hsplit, hserved, ?_, ?_, ?_, hrun, hread,
      ?_, ?_⟩
    · simp [ServerStream.responses, PullItem.ofChunk, Function.comp_def]
    · intro hcomplete
      exact absurd hcomplete hnot
    · exact fun _ => ⟨status, rfl, rfl⟩
    · refine ⟨nofun, ?_⟩
      rintro ⟨whole, hwhole⟩
      exact absurd hwhole (hnone whole)
    · intro whole hwhole
      exact absurd hwhole (hnone whole)

def sendingDaemon (segments : List Bytes) : Peer :=
  ⟨⟨[0x4f, 0x4b, 0x41, 0x59] :: [0x4f, 0x4b, 0x41, 0x59] :: segments, .finished⟩, false⟩

/-- An empty chunk, one of two bytes, and a closing frame with more behind it, in segments that cut
the headers. -/
def wholeReply : List Bytes :=
  [[0x44, 0x41, 0x54], [0x41, 0, 0, 0, 0, 0x44], [0x41, 0x54, 0x41, 2, 0, 0, 0, 0x61],
    [0x62, 0x44, 0x4f, 0x4e], [0x45, 7, 0, 0, 0, 0x7a]]

theorem pulls_whole_file_cutHeader :
    let peer := sendingDaemon wholeReply
    let desk := deskWith [] peer
    ((Bytes.ofString "/sdcard/g").length < 0x100000000 ∧ desk.host.plane.phase = .running ∧
        Daemon.dial desk.host.daemon.reach = .ok (peer, .answering []) ∧
        peer.source.bytes =
          Bytes.ofString "OKAY" ++ (Bytes.ofString "OKAY" ++ wholeReply.flatten) ∧
        ∃ files, desk.files.write "g" [] Files.newFileMode = .ok files) ∧
      ∃ left, (Job.ofCommand (.pull "/sdcard/g" "g")).run desk = (.ok (.exited 0), left) ∧
        left.files.read "g" = .ok [0x61, 0x62] ∧
        left.stdout = Bytes.ofString "2 bytes written to g\n" := by
  intro peer desk
  have hpath : (Bytes.ofString "/sdcard/g").length < 0x100000000 := by decide
  have hrunning : desk.host.plane.phase = .running := by rfl
  have hdial : Daemon.dial desk.host.daemon.reach = .ok (peer, .answering []) := by rfl
  have hreply : peer.source.bytes =
      Bytes.ofString "OKAY" ++ (Bytes.ofString "OKAY" ++ wholeReply.flatten) := by decide
  have hwritable : ∃ files, desk.files.write "g" [] Files.newFileMode = .ok files := by
    exact ⟨_, rfl⟩
  have hwhole : Transfers wholeReply.flatten [⟨[], by decide⟩, ⟨[0x61, 0x62], by decide⟩] :=
    ⟨[7, 0, 0, 0], [0x7a], rfl, by decide⟩
  rcases pulls_whole_file "/sdcard/g" "g" desk peer _ _ hpath hrunning hdial hreply hwritable with
    ⟨chunks, rest, stream, daemon, last, outcome, left, -, -, -, -, -, hrun, -, hsucceeds, hleft⟩
  have houtcome := hsucceeds.mpr ⟨_, hwhole⟩
  rcases hleft _ hwhole with ⟨hread, hstdout⟩
  refine ⟨⟨hpath, hrunning, hdial, hreply, hwritable⟩, left, houtcome ▸ hrun, hread, ?_⟩
  rw [hstdout]
  decide

end CommandLine

end EmulatorHost
