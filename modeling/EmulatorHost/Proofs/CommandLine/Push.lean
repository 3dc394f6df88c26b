import EmulatorHost.CommandLine.Program
import EmulatorHost.Proofs.Agent.Commitment

/-!
# Pushing a local file

From the local file to the bytes on the device's connection. The command line cuts the file into
pieces, the agent passes each piece on as one chunk, and the file service puts each chunk into one
frame; no piece is too large for a frame, so a daemon that accepts every step gets the whole file.
The main statement is `pushes_whole_file`.
-/

namespace EmulatorHost

open Adb Adb.Sync Adb.Exchange Agent

/-! ## Pieces of a file -/

namespace CommandLine

theorem flatten_pieces (size : Nat) (bytes : Bytes) : (pieces size bytes).flatten = bytes := by
  induction bytes using pieces.induct size with
  | case1 bytes hempty =>
      have hnil : bytes = [] := List.isEmpty_iff.mp hempty
      simp [pieces, hnil]
  | case2 bytes hempty hwhole =>
      simp [pieces, hempty, hwhole]
  | case3 bytes hempty hlong ih =>
      unfold pieces
      simp only [hempty, hlong, if_false, Bool.false_eq_true, List.flatten_cons]
      calc
        bytes.take size ++ (pieces size (bytes.drop size)).flatten
            = bytes.take size ++ bytes.drop size := by simp only [ih]
        _ = bytes := List.take_append_drop size bytes

theorem length_of_mem_pieces {size : Nat} (hsize : 0 < size) (bytes : Bytes) :
    ∀ piece ∈ pieces size bytes, 1 ≤ piece.length ∧ piece.length ≤ size := by
  induction bytes using pieces.induct size with
  | case1 bytes hempty =>
      simp [pieces, hempty]
  | case2 bytes hempty hwhole =>
      have hfits : bytes.length ≤ size := by
        have hnot : size ≠ 0 := Nat.ne_of_gt hsize
        simpa [hnot] using hwhole
      have hsome : 1 ≤ bytes.length := by
        apply List.length_pos_iff.mpr
        intro hnil
        exact hempty (List.isEmpty_iff.mpr hnil)
      simp [pieces, hempty, hfits, hsome]
  | case3 bytes hempty hlong ih =>
      have hmore : size < bytes.length := by
        simp only [Bool.or_eq_true, beq_iff_eq, decide_eq_true_eq, not_or] at hlong
        omega
      have hfirst : (bytes.take size).length = size :=
        List.length_take_of_le (Nat.le_of_lt hmore)
      unfold pieces
      simp only [hempty, hlong, if_false, Bool.false_eq_true, List.forall_mem_cons, hfirst]
      exact ⟨⟨hsize, Nat.le_refl size⟩, ih⟩

end CommandLine

/-! ## The agent's part -/

namespace Agent

/-- A daemon that accepts every step of a push: the two switches, and the push itself. -/
def AcceptsPush (peer : Peer) : Prop :=
  ∃ receipt, peer.source.bytes =
    Bytes.ofString "OKAY" ++ (Bytes.ofString "OKAY" ++ receipt) ∧ Accepts receipt

theorem pushSession_of_accepts {path : String}
    (hpath : (Bytes.ofString path).length < Bytes.limit 4) (mode : UInt32) {chunks : List Bytes}
    (hsize : ∀ chunk ∈ chunks, chunk.length ≤ maxData) (mtime : UInt32) {peer : Peer}
    (haccepts : AcceptsPush peer) :
    ∃ left, pushSession path mode ⟨chunks.map .data ++ [.finish mtime], none⟩ (dialledTo peer) =
        (.ok (), left) ∧
      left.sink.sent = Client.syncRequests ++ pushBytes path mode chunks mtime := by
  rcases haccepts with ⟨receipt, hbytes, hreceipt⟩
  have hopen : (dialledTo peer).isOpen = true := rfl
  rw [← List.append_assoc] at hbytes
  have hok : ((Client.upload path mode chunks mtime).on (dialledTo peer)).1 = .ok () :=
    (Client.upload_ok_iff hsize hopen).mpr ⟨hpath, nofun, receipt, hbytes, hreceipt⟩
  rcases Client.writes_upload path mode chunks mtime hopen with ⟨written, -, hsent, hall⟩
  rcases hall hok with ⟨-, hwhole⟩
  rcases hrun : (Client.upload path mode chunks mtime).on (dialledTo peer) with ⟨outcome, left⟩
  rw [hrun] at hok hsent
  have houtcome : outcome = .ok () := hok
  refine ⟨left, ?_, ?_⟩
  · rw [pushSession_of_finish rfl]
    exact ofExchange_of_ok (houtcome ▸ hrun)
  · rw [hsent, hwhole, Client.uploadBytes, ← Client.syncRequests_eq]
    rfl

end Agent

/-! ## The whole way -/

namespace CommandLine

namespace Job

/-- A call that the device serves. -/
theorem callDevice_of_ok {α : Type}
    (operation : ControlPlane → Daemon → Except Status α × Daemon) {desk : Desk} {value : α}
    {daemon : Daemon} (hok : operation desk.host.plane desk.host.daemon = (.ok value, daemon)) :
    callDevice operation desk =
      (.ok value, { desk with host := { desk.host with daemon } }) := by
  rw [callDevice, Sequence.get_bind, hok]
  rfl

theorem of_callDevice_ok {α : Type}
    {operation : ControlPlane → Daemon → Except Status α × Daemon} {desk left : Desk} {value : α}
    (hcall : callDevice operation desk = (.ok value, left)) :
    ∃ daemon, operation desk.host.plane desk.host.daemon = (.ok value, daemon) := by
  rcases hoperation : operation desk.host.plane desk.host.daemon with ⟨refusal | result, daemon⟩
  · rw [callDevice, Sequence.get_bind, hoperation] at hcall
    cases hcall
  · rw [callDevice_of_ok operation hoperation] at hcall
    cases hcall
    exact ⟨daemon, rfl⟩

end Job

/-- A file that can be read is pushed whole to a daemon that accepts every step, while the emulator
runs: the request carries the remote path and the mode of a regular file with the given permission
bits, the frames carry between 1 and 65536 bytes each and together the content of the file, and the
end carries the time of its last change. The call is answered well, and what is printed is how many
bytes the file has. -/
theorem pushes_whole_file (localPath remote mode : String) (desk : Desk) (bits : UInt32)
    (content : Bytes) (peer : Peer) (reach : Reach)
    (hpath : (Bytes.ofString remote).length < 0x100000000)
    (hmode : Push.readMode mode = .ok bits) (hfile : desk.files.read localPath = .ok content)
    (hrunning : desk.host.plane.phase = .running)
    (hdial : Daemon.dial desk.host.daemon.reach = .ok (peer, reach))
    (haccepts : AcceptsPush peer) :
    ∃ chunks connection,
      (chunks.flatten = content ∧ (∀ chunk ∈ chunks, 1 ≤ chunk.length ∧ chunk.length ≤ 65536) ∧
        (content = [] → chunks = [])) ∧
      (Push.messages remote bits content desk.mtime =
        .start remote (0o100000 ||| (bits &&& 0o7777)) :: chunks.map .data ++
          [.finish desk.mtime]) ∧
      connection.sink.sent =
        Bytes.ofString "0014host:transport-local0005sync:" ++
          pushBytes remote (0o100000 ||| (bits &&& 0o7777)) chunks desk.mtime ∧
      let daemon : Daemon := ⟨reach, desk.host.daemon.dialled ++ [connection]⟩
      pushFile desk.host.plane ⟨Push.messages remote bits content desk.mtime, none⟩
          desk.host.daemon = (.ok (), daemon) ∧
        (Job.ofCommand (.push localPath remote mode)).run desk =
          (.ok (.exited 0), { desk with
            host := { desk.host with daemon }
            stdout := desk.stdout ++ Bytes.ofString
              (toString content.length ++ " bytes pushed to " ++ remote ++ "\n") }) := by
  have hpositive : 0 < Push.chunkSize := by decide
  have hpieces := length_of_mem_pieces hpositive content
  have hsize : ∀ chunk ∈ pieces Push.chunkSize content, chunk.length ≤ maxData := by
    intro chunk hchunk
    exact (hpieces chunk hchunk).2
  rcases pushSession_of_accepts hpath (Push.fileMode bits) hsize desk.mtime haccepts with
    ⟨connection, hsession, hsent⟩
  have hcall : pushFile desk.host.plane ⟨Push.messages remote bits content desk.mtime, none⟩
      desk.host.daemon = (.ok (), ⟨reach, desk.host.daemon.dialled ++ [connection]⟩) := by
    rw [pushFile, requireRunning_eq, if_pos hrunning]
    exact onDevice_of_dial hrunning hdial hsession
  refine ⟨pieces Push.chunkSize content, connection, ⟨flatten_pieces _ _, hpieces, ?_⟩, rfl, ?_,
    hcall, ?_⟩
  · rintro rfl
    simp [pieces]
  · rw [hsent, Client.syncRequests_eq]
    rfl
  · have hget : (get : Job Desk) desk = (.ok desk, desk) := rfl
    have hserved := Job.callDevice_of_ok
      (pushFile · ⟨Push.messages remote bits content desk.mtime, none⟩) hcall
    change Job.push localPath remote mode desk = _
    simp only [Job.push, hmode]
    rw [Sequence.bind_of_ok hget]
    simp only [hfile]
    rw [Sequence.bind_of_ok hserved]
    rfl

/-- A run with a file `f` in its working directory, while the emulator runs and one peer answers. -/
def deskWith (content : Bytes) (peer : Peer) : Desk where
  host := { Host.begin [] (.ofReach (.answering [peer])) with
    rehearsal := { ControlPlane.Rehearsal.begin [] with
      course := (ControlPlane.Course.initial.run [.start default (.ok ()), .started 1]).1 } }
  files :=
    ⟨[([['w'], ['f']], .file content 0o644), ([['w']], .directory 0o755)], [['w']]⟩
  mtime := 1700000000
  stdin := []
  stdout := []
  stderr := []

/-- A peer that accepts both switches and the push, in segments that cut its statuses. -/
def acceptingDaemon : Peer :=
  ⟨⟨[[0x4f, 0x4b, 0x41], [0x59, 0x4f], [0x4b, 0x41, 0x59, 0x4f, 0x4b, 0x41, 0x59, 0, 0, 0, 0]],
    .finished⟩, false⟩

/-- A file of one byte more than a frame carries. -/
def overlong : Bytes :=
  List.replicate 65537 0x61

theorem pushes_whole_file_overlong :
    let desk := deskWith overlong acceptingDaemon
    ((Bytes.ofString "/sdcard/f").length < 0x100000000 ∧ Push.readMode "644" = .ok 0o644 ∧
        desk.files.read "f" = .ok overlong ∧ desk.host.plane.phase = .running ∧
        Daemon.dial desk.host.daemon.reach = .ok (acceptingDaemon, .answering []) ∧
        AcceptsPush acceptingDaemon) ∧
      ∃ chunks connection,
        chunks.flatten = overlong ∧
        (∀ chunk ∈ chunks, 1 ≤ chunk.length ∧ chunk.length ≤ 65536) ∧
        connection.sink.sent =
          Bytes.ofString "0014host:transport-local0005sync:" ++
            pushBytes "/sdcard/f" 0o100644 chunks 1700000000 ∧
        (Job.ofCommand (.push "f" "/sdcard/f" "644")).run desk =
          (.ok (.exited 0), { desk with
            host := { desk.host with daemon := ⟨.answering [], [connection]⟩ }
            stdout := Bytes.ofString "65537 bytes pushed to /sdcard/f\n" }) := by
  intro desk
  have hpath : (Bytes.ofString "/sdcard/f").length < 0x100000000 := by decide
  have hmode : Push.readMode "644" = .ok 0o644 := by rfl
  have hfile : desk.files.read "f" = .ok overlong := by rfl
  have hrunning : desk.host.plane.phase = .running := by rfl
  have hdial : Daemon.dial desk.host.daemon.reach = .ok (acceptingDaemon, .answering []) := by rfl
  have haccepts : AcceptsPush acceptingDaemon := by
    refine ⟨Bytes.ofString "OKAY" ++ [0, 0, 0, 0], ?_, ?_, ?_⟩ <;> decide
  rcases pushes_whole_file "f" "/sdcard/f" "644" desk 0o644 overlong acceptingDaemon _ hpath hmode
    hfile hrunning hdial haccepts with ⟨chunks, connection, hchunks, -, hsent, -, hrun⟩
  have hlength : overlong.length = 65537 := List.length_replicate
  have htext : toString overlong.length ++ " bytes pushed to " ++ "/sdcard/f" ++ "\n" =
      "65537 bytes pushed to /sdcard/f\n" := by
    rw [hlength]
    decide
  rw [htext] at hrun
  exact ⟨⟨hpath, hmode, hfile, hrunning, hdial, haccepts⟩, chunks, connection, hchunks.1,
    hchunks.2.1, hsent, hrun⟩

end CommandLine

end EmulatorHost
