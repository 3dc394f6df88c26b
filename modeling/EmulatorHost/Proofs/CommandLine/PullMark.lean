import EmulatorHost.Proofs.CommandLine.Pull

/-!
# The mark of a complete pull

Who sees to it that a pull which has not come to its end is not taken for a complete one. The command
line asks for the mark only where the stream fails: it takes a stream that merely ends for complete
(`Pull.failure_eq_none_iff`). The agent's streams do not merely end: whatever the daemon does, each
has the mark as its last item or fails (`pullFile_closes`). Together a run succeeds only after the
mark has come; the main statement is `succeeds_only_after_mark`.
-/

namespace EmulatorHost

open Adb Agent

namespace Agent

inductive Closes (data : List Bytes) : ServerStream PullItem → Prop where
  -- The stream tells these data, and then its end: by the mark, or by a status.
  | marked : Closes data ⟨data.map (⟨·, false⟩) ++ [.mark], none⟩
  | failed (status : Status) : Closes data ⟨data.map (⟨·, false⟩), some status⟩

theorem Closes.cons {data : List Bytes} {stream : ServerStream PullItem} (first : Bytes)
    (h : Closes data stream) : Closes (first :: data) (stream.cons ⟨first, false⟩) := by
  cases h with
  | marked =>
      exact .marked
  | failed status =>
      exact .failed status

/-- An opened pull tells how it ends, whatever comes over its connection. -/
theorem pullItems_closes (fuel : Nat) (connection : Connection) :
    ∃ data, Closes data (pullItems fuel connection).1 := by
  induction fuel generalizing connection with
  | zero =>
      exact ⟨[], .failed _⟩
  | succ fuel ih =>
      rw [pullItems_succ]
      rcases Sync.receive.on connection with ⟨error | _ | chunk, left⟩
      · exact ⟨[], .failed error.status⟩
      · exact ⟨[], .marked⟩
      · rcases ih left with ⟨data, hlater⟩
        exact ⟨chunk :: data, hlater.cons chunk⟩

theorem pullSession_closes {remote : String} {connection left : Connection}
    {stream : ServerStream PullItem}
    (hserved : pullSession remote connection = (.ok stream, left)) :
    ∃ data, Closes data stream := by
  rcases Sequence.of_bind_ok hserved with ⟨_, opened, -, hitems⟩
  have hstream : (pullItems (opened.source.size + 1) opened).1 = stream :=
    Except.ok.inj (congrArg Prod.fst hitems)
  rw [← hstream]
  exact pullItems_closes _ opened

/-- Whatever the daemon does, a pull that the agent accepts tells how it ends. -/
theorem pullFile_closes {plane : ControlPlane} {remote : String} {daemon left : Daemon}
    {stream : ServerStream PullItem} (hserved : pullFile plane remote daemon = (.ok stream, left)) :
    ∃ data, Closes data stream := by
  rcases of_onDevice_ok hserved with ⟨peer, connection, hsession⟩
  exact pullSession_closes hsession

end Agent

namespace CommandLine

theorem Pull.failure_eq_none_iff {stream : ServerStream PullItem} :
    Pull.failure stream = none ↔
      stream.failure = none ∨ ∃ item ∈ stream.items, item.isLast = true := by
  rw [Pull.failure, ← List.any_eq_true]
  rcases stream.items.any (·.isLast) <;> simp

theorem Pull.content_of_data (data : List Bytes) :
    Pull.content (data.map (⟨·, false⟩) ++ [.mark]) = data.flatten := by
  induction data with
  | nil =>
      rfl
  | cons first data ih =>
      rw [List.flatten_cons, ← ih]
      rfl

/-- A pull that is not marked as complete fails, whatever else it tells. -/
theorem marked_of_failure_eq_none {data : List Bytes} {stream : ServerStream PullItem}
    (hcloses : Closes data stream) (hsuccess : Pull.failure stream = none) :
    stream = ⟨data.map (⟨·, false⟩) ++ [.mark], none⟩ := by
  cases hcloses with
  | marked =>
      rfl
  | failed status =>
      rcases Pull.failure_eq_none_iff.mp hsuccess with hnone | ⟨item, hitem, hlast⟩
      · cases hnone
      · rcases List.mem_map.mp hitem with ⟨bytes, -, rfl⟩
        cases hlast

namespace Job

/-- Nothing more is done where the content cannot be written. -/
theorem pull_of_unwritable {remote localPath : String} {desk : Desk}
    {stream : ServerStream PullItem} {daemon : Daemon} {cause : SystemError}
    (hserved : pullFile desk.host.plane remote desk.host.daemon = (.ok stream, daemon))
    (hwrite : desk.files.write localPath (Pull.content stream.items) Files.newFileMode =
      .error cause) :
    (pull remote localPath desk).1 = .error (.file cause) := by
  have hcall := callDevice_of_ok (pullFile · remote) hserved
  rw [pull, Sequence.bind_of_ok hcall]
  dsimp only
  rw [Sequence.get_bind]
  simp only [hwrite]
  rfl

end Job

/-- Whatever the daemon does, and wherever the local file is: a run that pulls a file either fails,
or it exits with 0 after the agent has told all data and then the mark, and then all these data are
in the local file, and their length is what is printed. -/
theorem succeeds_only_after_mark (remote localPath : String) (desk left : Desk) (ending : Ending)
    (hrun : (Job.ofCommand (.pull remote localPath)).run desk = (.ok ending, left)) :
    ∃ (data : List Bytes) (daemon : Daemon),
      pullFile desk.host.plane remote desk.host.daemon =
        (.ok ⟨data.map (⟨·, false⟩) ++ [.mark], none⟩, daemon) ∧
      ending = .exited 0 ∧ left.files.read localPath = .ok data.flatten ∧
      left.stdout = desk.stdout ++ Bytes.ofString
        (toString data.flatten.length ++ " bytes written to " ++ localPath ++ "\n") := by
  change Job.pull remote localPath desk = (.ok ending, left) at hrun
  have hcalled := hrun
  rw [Job.pull] at hcalled
  rcases Sequence.of_bind_ok hcalled with ⟨stream, called, hcall, -⟩
  rcases Job.of_callDevice_ok hcall with ⟨daemon, hserved⟩
  rcases pullFile_closes hserved with ⟨data, hcloses⟩
  rcases hwrite : desk.files.write localPath (Pull.content stream.items) Files.newFileMode with
    cause | files
  · have hfailed := Job.pull_of_unwritable hserved hwrite
    rw [hrun] at hfailed
    cases hfailed
  · rw [Job.pull_of_stream hserved hwrite] at hrun
    rcases hsuccess : Pull.failure stream with _ | status
    · have hmarked := marked_of_failure_eq_none hcloses hsuccess
      subst hmarked
      rw [Pull.content_of_data] at hwrite hrun
      rw [hsuccess] at hrun
      cases hrun
      exact ⟨data, daemon, hserved, rfl, Files.read_of_write hwrite, rfl⟩
    · rw [hsuccess] at hrun
      cases hrun

/-- The mark itself is not asked for: a stream of some other kind that ends without it would be
taken for complete. -/
example : Pull.failure ⟨[⟨[0x61], false⟩], none⟩ = none := rfl

end CommandLine

end EmulatorHost
