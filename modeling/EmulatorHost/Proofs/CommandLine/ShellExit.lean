import EmulatorHost.Proofs.Adb.ShellOutput
import EmulatorHost.Proofs.Agent.ShellSession
import EmulatorHost.Proofs.CommandLine.Push

/-!
# The exit status of a shell

Which status the command line ends with after a shell. It takes a stream that merely ends for a
success, and of an exit code only the low eight bits count (`Session.exits_zero_iff`). The agent's
streams do not merely end, and their codes have eight bits: whatever comes over its connection, a
session tells the device's exit code or fails (`openShell_concludes`). Together the status is the
device's exit code; the main statement is `exits_with_device_code`.
-/

namespace EmulatorHost

open Adb Agent

namespace Agent

def ShellItem.told (output : OutputChannel × Bytes) : ShellItem :=
  .output output.1 output.2

inductive Concludes (outputs : List (OutputChannel × Bytes)) : ServerStream ShellItem → Prop where
  -- The stream tells these outputs, and then how the session ended: by the exit code of the device,
  -- or by a status.
  | exited (code : UInt8) :
      Concludes outputs ⟨outputs.map ShellItem.told ++ [.exit code.toUInt32], none⟩
  | failed (status : Status) : Concludes outputs ⟨outputs.map ShellItem.told, some status⟩

theorem Concludes.cons {outputs : List (OutputChannel × Bytes)} {stream : ServerStream ShellItem}
    (channel : OutputChannel) (data : Bytes) (h : Concludes outputs stream) :
    Concludes ((channel, data) :: outputs) (stream.cons (.output channel data)) := by
  cases h with
  | exited code =>
      exact .exited code
  | failed status =>
      exact .failed status

theorem concludes_ofLast {event : SessionEvent} {response : Except Status ShellItem}
    (hlast : event.lastResponse? = some response) : Concludes [] (.ofLast response) := by
  rcases event with (status | _ | (_ | _ | _ | _)) | (error | _ | _ | code | _) <;> cases hlast
  all_goals first
    | exact .exited code
    | exact .failed _

/-- A session in which something comes that ends it tells how it ended. -/
theorem session_concludes {queue : List SessionEvent}
    (hexited : ∀ event ∈ queue, event ≠ .device (.ok .exited))
    (hlast : ∃ event ∈ queue, event.lastResponse? ≠ none) (writer : Shell.Writer) :
    ∃ outputs, Concludes outputs (session writer queue).1 := by
  -- On the queue. What does not end the session leaves it to the rest of the queue.
  induction queue generalizing writer with
  | nil =>
      rcases hlast with ⟨event, hevent, -⟩
      cases hevent
  | cons event rest ih =>
      rw [List.forall_mem_cons] at hexited
      cases hresponse : event.lastResponse? with
      | some response =>
          rw [session_of_last hresponse]
          exact ⟨[], concludes_ofLast hresponse⟩
      | none =>
          have hrest : ∃ later ∈ rest, later.lastResponse? ≠ none := by
            rcases hlast with ⟨later, hlater, hends⟩
            rcases List.mem_cons.mp hlater with rfl | hlater
            · exact absurd hresponse hends
            · exact ⟨later, hlater, hends⟩
          have hlater := ih hexited.2 hrest
          cases event with
          | client outcome =>
              rcases outcome with status | _ | message
              · cases hresponse
              · exact hlater writer
              · cases message with
                | start _ _ _ | empty =>
                    cases hresponse
                | stdin _ _ | resize _ _ _ _ =>
                    -- What cannot be written on ends the session as well.
                    unfold session
                    dsimp only [ShellMessage.inputs?]
                    split
                    · exact hlater _
                    · exact ⟨[], .failed _⟩
          | device outcome =>
              rcases outcome with error | _ | _ | code | _
              · cases hresponse
              · rcases hlater writer with ⟨outputs, hconcludes⟩
                exact ⟨_, hconcludes.cons .out _⟩
              · rcases hlater writer with ⟨outputs, hconcludes⟩
                exact ⟨_, hconcludes.cons .err _⟩
              · cases hresponse
              · exact absurd rfl hexited.1

/-- What a running reader hears: the outputs that the bytes of the device come to, and then the last
result. -/
theorem deviceEvents_of_yields {fuel : Nat} {reader : Shell.Reader} {events : List Shell.Event}
    {last : Except Error Shell.Event} (hrunning : reader.IsRunning)
    (hyields : Shell.Yields reader.connection.source.ending reader.connection.source.bytes events
      last)
    (hfuel : reader.connection.source.bytes.length < fuel) :
    deviceEvents fuel reader = (events.map Except.ok ++ [last]).map .device := by
  -- On the packets. Each takes bytes, so that the fuel that is left is still beyond them.
  generalize hending : reader.connection.source.ending = ending at hyields
  generalize hbytes : reader.connection.source.bytes = bytes at hyields hfuel
  induction hyields generalizing reader fuel with
  | @output _ data rest _ _ _ houtput hlimit _ ih =>
      have hreads := Shell.reads_receivePacket houtput hlimit
      rcases Shell.Reader.receive_of_reads hrunning hreads houtput.ne_exit hbytes with
        ⟨left, hreceive, hleft, hrest, hsame⟩
      cases fuel with
      | zero =>
          cases hfuel
      | succ fuel =>
          have hless : rest.length < fuel := by
            simp only [List.length_append, List.length_cons] at hfuel
            omega
          have hlater := ih hleft (hsame.trans hending) hrest hless
          rw [deviceEvents, hreceive]
          cases houtput <;> exact congrArg _ hlater
  | last hlast =>
      subst hending
      subst hbytes
      rcases Shell.Reader.receive_of_last hrunning hlast with ⟨left, hreceive, hstays⟩
      cases fuel with
      | zero =>
          cases hfuel
      | succ fuel =>
          rw [deviceEvents, hreceive]
          generalize reader.connection.source.bytes = bytes at hlast
          cases hlast <;> rfl

/-- A running reader hears how the session ends. -/
theorem exists_last_event {fuel : Nat} {reader : Shell.Reader} (hrunning : reader.IsRunning)
    (hfuel : reader.connection.source.bytes.length < fuel) :
    ∃ event ∈ deviceEvents fuel reader, event.lastResponse? ≠ none := by
  rcases Shell.exists_yields reader.connection.source.ending reader.connection.source.bytes with
    ⟨events, last, hyields⟩
  have hends : (SessionEvent.device last).lastResponse? ≠ none := by
    generalize reader.connection.source.bytes = bytes at hyields
    clear hfuel
    induction hyields with
    | output _ _ _ ih =>
        exact ih
    | last hlast =>
        cases hlast <;> nofun
  refine ⟨.device last, ?_, hends⟩
  rw [deviceEvents_of_yields hrunning hyields hfuel]
  exact List.mem_map_of_mem (List.mem_append_right _ (List.mem_singleton_self _))

theorem shellSession_concludes {request : Shell.Request} {rest : ClientStream ShellMessage}
    {connection left : Connection} {stream : ServerStream ShellItem}
    (hserved : shellSession request rest connection = (.ok stream, left)) :
    ∃ outputs, Concludes outputs stream := by
  rcases Sequence.of_bind_ok hserved with ⟨⟨⟩, opened, hopened, hlater⟩
  -- A daemon that has accepted the shell is heard, since the connection is open.
  have hrunning : (Shell.split opened).1.IsRunning := by
    rcases Exchange.of_bind_ok (of_ofExchange_ok hopened) with ⟨⟨⟩, middle, -, hshell⟩
    rcases Shell.onward_of_open hshell with ⟨-, -, hopen, -⟩
    exact ⟨rfl, hopen⟩
  rw [Sequence.get_bind] at hlater
  have hstream : (session (Shell.split opened).2 (clientEvents rest ++
      deviceEvents (opened.source.size + 1) (Shell.split opened).1)).1 = stream :=
    Except.ok.inj (congrArg Prod.fst hlater)
  rw [← hstream]
  rcases merges_hostQueue rest (opened.source.size + 1) opened with ⟨client, device, -, hqueue⟩
  refine session_concludes (ne_exited_of_merges hqueue) ?_ _
  rcases exists_last_event hrunning (Nat.lt_succ_self _) with ⟨event, hevent, hends⟩
  exact ⟨event, List.mem_append_right _ hevent, hends⟩

/-- Whatever the daemon does, a shell that the agent accepts tells how it ends. -/
theorem openShell_concludes {plane : ControlPlane} {stream : ClientStream ShellMessage}
    {daemon left : Daemon} {answers : ServerStream ShellItem}
    (hserved : openShell plane stream daemon = (.ok answers, left)) :
    ∃ outputs, Concludes outputs answers := by
  unfold openShell at hserved
  split at hserved
  · cases hserved
  · cases hserved
  · split at hserved
    · cases hserved
    · rcases of_onDevice_ok hserved with ⟨peer, connection, hsession⟩
      exact shellSession_concludes hsession
  · cases hserved

end Agent

namespace CommandLine

namespace Session

/-- The command line exits with 0 exactly after an exit code that is a multiple of 256, or where the
stream neither tells an exit code nor fails. -/
theorem exits_zero_iff (stream : ServerStream ShellItem) :
    (result stream).map processStatus = .ok 0 ↔
      (∃ code, exitCode? stream.items = some code ∧ 256 ∣ code.toNat) ∨
        (exitCode? stream.items = none ∧ stream.failure = none) := by
  unfold result
  rcases exitCode? stream.items with _ | code
  · rcases stream.failure with _ | status
    · simp [Except.map, processStatus]
    · simp [Except.map]
  · simp [Except.map, processStatus, Nat.dvd_iff_mod_eq_zero]

/-- A session that tells how it ended comes to the device's exit code, or to its failure. -/
theorem result_of_concludes {outputs : List (OutputChannel × Bytes)}
    {stream : ServerStream ShellItem} {code : UInt32} (hconcludes : Concludes outputs stream)
    (hresult : result stream = .ok code) :
    ∃ exit : UInt8, code = exit.toUInt32 ∧
      stream = ⟨outputs.map ShellItem.told ++ [.exit exit.toUInt32], none⟩ := by
  have htold : exitCode? (outputs.map ShellItem.told) = none :=
    List.findSome?_eq_none_iff.mpr (List.forall_mem_map.mpr fun _ _ => rfl)
  cases hconcludes with
  | exited exit =>
      have hcode : exitCode? (outputs.map ShellItem.told ++ [.exit exit.toUInt32]) =
          some exit.toUInt32 := by
        rw [exitCode?, List.findSome?_append, ← exitCode?, htold]
        rfl
      rw [result, hcode] at hresult
      cases hresult
      exact ⟨exit, rfl, rfl⟩
  | failed status =>
      rw [result, htold] at hresult
      cases hresult

/-- What is printed of a session are its outputs on that channel. -/
theorem output_told (channel : OutputChannel) (outputs : List (OutputChannel × Bytes))
    (code : UInt32) :
    output channel (outputs.map ShellItem.told ++ [.exit code]) =
      ((outputs.filter (·.1 = channel)).map (·.2)).flatten := by
  induction outputs with
  | nil =>
      rfl
  | cons first outputs ih =>
      rcases first with ⟨other, data⟩
      rw [List.map_cons, List.cons_append, ShellItem.told, output, ih, List.filter_cons]
      by_cases hsame : other = channel
      · simp [hsame]
      · simp [hsame]

theorem processStatus_device (code : UInt8) : processStatus code.toUInt32 = code.toNat := by
  rw [processStatus, UInt8.toNat_toUInt32]
  exact Nat.mod_eq_of_lt code.toNat_lt

end Session

namespace Job

/-- What comes of a shell once its stream has come. -/
theorem shell_of_stream {terminal : Bool} {term : Option String} {words : List String}
    {desk : Desk} {stream : ServerStream ShellItem} {daemon : Daemon}
    (hserved : openShell desk.host.plane ⟨Session.messages terminal term words desk.stdin, none⟩
      desk.host.daemon = (.ok stream, daemon)) :
    shell terminal term words desk =
      let told : Desk := { desk with
        host := { desk.host with daemon }
        stdout := desk.stdout ++ Session.output .out stream.items
        stderr := desk.stderr ++ Session.output .err stream.items }
      match Session.result stream with
      | .error status => (.error (.status status), told)
      | .ok code => (.ok (.exited (Session.processStatus code)), told) := by
  have hcall := callDevice_of_ok
    (openShell · ⟨Session.messages terminal term words desk.stdin, none⟩) hserved
  rw [shell, Sequence.get_bind, Sequence.bind_of_ok hcall]
  cases Session.result stream <;> rfl

end Job

/-- Whatever the daemon does, and whatever is typed: a run of a shell either fails, or it exits with
the device's exit code after the agent has told all outputs and then this code, and has printed each
output on its channel. -/
theorem exits_with_device_code (terminal : Bool) (term : Option String) (words : List String)
    (desk left : Desk) (ending : Ending)
    (hrun : (Job.ofCommand (.shell terminal term words)).run desk = (.ok ending, left)) :
    ∃ (outputs : List (OutputChannel × Bytes)) (code : UInt8) (daemon : Daemon),
      openShell desk.host.plane ⟨Session.messages terminal term words desk.stdin, none⟩
          desk.host.daemon =
        (.ok ⟨outputs.map ShellItem.told ++ [.exit code.toUInt32], none⟩, daemon) ∧
      ending = .exited code.toNat ∧
      left.stdout = desk.stdout ++ ((outputs.filter (·.1 = .out)).map (·.2)).flatten ∧
      left.stderr = desk.stderr ++ ((outputs.filter (·.1 = .err)).map (·.2)).flatten := by
  change Job.shell terminal term words desk = (.ok ending, left) at hrun
  -- A success has had a stream from the agent, and this decides what the run comes to.
  have hcalled := hrun
  rw [Job.shell, Sequence.get_bind] at hcalled
  rcases Sequence.of_bind_ok hcalled with ⟨stream, called, hcall, -⟩
  rcases Job.of_callDevice_ok hcall with ⟨daemon, hserved⟩
  rcases openShell_concludes hserved with ⟨outputs, hconcludes⟩
  rw [Job.shell_of_stream hserved] at hrun
  rcases hresult : Session.result stream with status | code
  · rw [hresult] at hrun
    cases hrun
  · rcases Session.result_of_concludes hconcludes hresult with ⟨exit, rfl, rfl⟩
    rw [hresult] at hrun
    cases hrun
    refine ⟨outputs, exit, daemon, hserved, ?_, ?_, ?_⟩
    · rw [Session.processStatus_device]
    · rw [← Session.output_told]
    · rw [← Session.output_told]

/-- An exit code is not asked for: a stream of some other kind that ends without one would be taken
for a success, and so would one that tells a multiple of 256. -/
example : Session.result ⟨[.output .out [0x61]], none⟩ = .ok 0 ∧
    Session.result ⟨[.exit 256], none⟩ = .ok 256 ∧ Session.processStatus 256 = 0 :=
  ⟨rfl, rfl, rfl⟩

end CommandLine

end EmulatorHost
