import EmulatorHost.Adb.Bootstrap
import EmulatorHost.Proofs.Files
import EmulatorHost.Proofs.Sequence

/-!
# Who may read a key

A key is closed to everyone but the owner after it has been generated and before the daemon is
started. Each step of the bootstrap leads on only where it succeeded, so runs are told apart by how
far they come. A run that comes to closing the key leaves it closed, and only such a run asks for
the daemon. A run that ends at the generator leaves the key as the generator made it.
-/

namespace EmulatorHost

namespace Files

variable {files : Files} {path : String} {mode : Nat}

/-- The permission bits of a file that is there can be set. -/
theorem mode?_setMode (hfile : files.isDirectory path = false)
    (hmode : files.mode? path = some mode) (bits : Nat) :
    ∃ closed, files.setMode path bits = .ok closed ∧ closed.mode? path = some bits := by
  unfold isDirectory at hfile
  unfold mode? at hmode
  rcases hlocate : files.locate path with cause | ⟨place, found⟩
  · rw [hlocate] at hmode
    cases hmode
  · rw [hlocate] at hfile hmode
    cases found with
    | none =>
        cases hmode
    | some node =>
        cases node with
        | directory old =>
            cases hfile
        | socket =>
            cases hmode
        | file content old =>
            have hset : files.setMode path bits = .ok (files.put place (.file content bits)) := by
              simp only [setMode, hlocate]
            rcases reach_of_locate hlocate with ⟨hreach, hname⟩
            have hagain := locate_put hreach hname nofun content bits
            exact ⟨_, hset, by simp only [mode?, hagain]⟩

end Files

namespace Adb.Bootstrap

variable {binary : Binary} {path keyPath : String} {args : List String}
  {session left : Session} {result : Except Error Unit} {output : Output}
  {generated closed : Files}

/-- A call is made only where the binary can be started, and then it decides how the call ends. -/
theorem call_cases (hrun : call binary path args session = (result, left)) :
    (∃ cause failure, (ProgramStart.mk path args []).check session.files = .error cause ∧
        result = .error failure ∧ left = session) ∨
      ∃ output later, (ProgramStart.mk path args []).check session.files = .ok () ∧
        binary args session.files = (output, later) ∧ (result = .ok () ↔ output.status.isSuccess) ∧
        left = ⟨later, session.calls ++ [args]⟩ := by
  rw [call, Sequence.get_bind] at hrun
  rcases hcheck : (ProgramStart.mk path args []).check session.files with cause | ⟨⟩
  · rw [hcheck] at hrun
    dsimp only at hrun
    left
    split at hrun
    · cases hrun
      exact ⟨cause, _, rfl, rfl, rfl⟩
    · cases hrun
      exact ⟨cause, _, rfl, rfl, rfl⟩
  · rcases houtput : binary args session.files with ⟨output, later⟩
    rw [hcheck, houtput] at hrun
    dsimp only at hrun
    have hset : (set (⟨later, session.calls ++ [args]⟩ : Session) : Step PUnit) session =
        (.ok ⟨⟩, ⟨later, session.calls ++ [args]⟩) := rfl
    rw [Sequence.bind_of_ok hset] at hrun
    right
    refine ⟨output, later, rfl, rfl, ?_⟩
    split at hrun
    · rename_i hsuccess
      cases hrun
      exact ⟨iff_of_true rfl hsuccess, rfl⟩
    · rename_i hfailure
      cases hrun
      exact ⟨iff_of_false nofun hfailure, rfl⟩

/-- What changes the files makes no call. -/
theorem change_eq (operation : Files → Except SystemError Unit × Files) (session : Session) :
    change operation session =
      ((operation session.files).1.mapError .io,
        { session with files := (operation session.files).2 }) := by
  rw [change, Sequence.get_bind]
  rcases operation session.files with ⟨cause | ⟨⟩, files⟩
  · rfl
  · rfl

theorem protectKey_cases (hrun : protectKey keyPath session = (result, left)) :
    (∃ cause failure, session.files.setMode keyPath 0o600 = .error cause ∧
        result = .error failure ∧ left = session) ∨
      ∃ closed, session.files.setMode keyPath 0o600 = .ok closed ∧ result = .ok () ∧
        left = { session with files := closed } := by
  rw [protectKey, ownerOnly, change_eq] at hrun
  rcases hset : session.files.setMode keyPath 0o600 with cause | closed
  · rw [hset] at hrun
    cases hrun
    exact Or.inl ⟨cause, _, rfl, rfl, rfl⟩
  · rw [hset] at hrun
    cases hrun
    exact Or.inr ⟨closed, rfl, rfl, rfl⟩

theorem calls_makeKeyDirectory (hrun : makeKeyDirectory keyPath session = (result, left)) :
    left.calls = session.calls := by
  rw [makeKeyDirectory] at hrun
  rcases hparent : Path.parent? keyPath with _ | dir
  · rw [hparent] at hrun
    cases hrun
    rfl
  · rw [hparent] at hrun
    dsimp only at hrun
    rw [change_eq] at hrun
    cases hrun
    rfl

/-- A bootstrap generates a key: the key's directory is made, and there the generator can be
started, ends with this output and leaves these files. -/
def Generates (binary : Binary) (path keyPath : String) (session : Session) (output : Output)
    (generated : Files) : Prop :=
  ∃ ready, makeKeyDirectory keyPath session = (.ok (), { session with files := ready }) ∧
    (ProgramStart.mk path ["keygen", keyPath] []).check ready = .ok () ∧
    binary ["keygen", keyPath] ready = (output, generated)

theorem Generates.unique {other : Output} {others : Files}
    (hone : Generates binary path keyPath session output generated)
    (htwo : Generates binary path keyPath session other others) :
    output = other ∧ generated = others := by
  rcases hone with ⟨ready, hready, -, houtput⟩
  rcases htwo with ⟨prepared, hprepared, -, hother⟩
  cases hready.symm.trans hprepared
  cases houtput.symm.trans hother
  exact ⟨rfl, rfl⟩

inductive Course (binary : Binary) (path keyPath : String) (session : Session) :
    Session → Prop where
  -- How far a bootstrap can come in a session, and what it leaves there.
  -- The generator is not started.
  | ungenerated (files : Files)
      (hnot : ∀ output generated, ¬ Generates binary path keyPath session output generated) :
      Course binary path keyPath session ⟨files, session.calls⟩
  -- The generator fails.
  | failed {output : Output} {generated : Files}
      (hgenerates : Generates binary path keyPath session output generated)
      (hfails : output.status.isSuccess = false) :
      Course binary path keyPath session ⟨generated, session.calls ++ [["keygen", keyPath]]⟩
  -- There is nothing that could be closed where the key should be.
  | unclosed {output : Output} {generated : Files} {cause : SystemError}
      (hgenerates : Generates binary path keyPath session output generated)
      (hsucceeds : output.status.isSuccess = true)
      (hmissing : generated.setMode keyPath 0o600 = .error cause) :
      Course binary path keyPath session ⟨generated, session.calls ++ [["keygen", keyPath]]⟩
  -- The key is closed, but the daemon cannot be asked for.
  | unasked {output : Output} {generated closed : Files}
      (hgenerates : Generates binary path keyPath session output generated)
      (hsucceeds : output.status.isSuccess = true)
      (hclosed : generated.setMode keyPath 0o600 = .ok closed) :
      Course binary path keyPath session ⟨closed, session.calls ++ [["keygen", keyPath]]⟩
  -- The key is closed, and the daemon is asked for.
  | asked {output : Output} {generated closed : Files}
      (hgenerates : Generates binary path keyPath session output generated)
      (hsucceeds : output.status.isSuccess = true)
      (hclosed : generated.setMode keyPath 0o600 = .ok closed) :
      Course binary path keyPath session
        ⟨(binary ["start-server"] closed).2,
          session.calls ++ [["keygen", keyPath], ["start-server"]]⟩

/-- After a success of the generator, the file that it leaves and then the daemon decide how far the
bootstrap comes. -/
theorem course_of_generates (hgenerates : Generates binary path keyPath session output generated)
    (hsucceeds : output.status.isSuccess = true)
    (hrest : (protectKey keyPath >>= fun _ => call binary path ["start-server"])
      ⟨generated, session.calls ++ [["keygen", keyPath]]⟩ = (result, left)) :
    Course binary path keyPath session left := by
  rcases Sequence.of_bind hrest with ⟨error, hprotect, -⟩ | ⟨⟨⟩, middle, hprotect, hask⟩
  · rcases protectKey_cases hprotect with ⟨cause, failure, hset, -, rfl⟩ | ⟨closed, -, hok, -⟩
    · exact .unclosed hgenerates hsucceeds hset
    · cases hok
  · rcases protectKey_cases hprotect with ⟨cause, failure, -, hfail, -⟩ | ⟨closed, hset, -, rfl⟩
    · cases hfail
    · rcases call_cases hask with ⟨cause, failure, -, -, rfl⟩ | ⟨answer, final, -, hanswer, -, rfl⟩
      · exact .unasked hgenerates hsucceeds hset
      · have hfinal : final = (binary ["start-server"] closed).2 := by
          rw [hanswer]
        rw [hfinal, List.append_assoc]
        exact .asked hgenerates hsucceeds hset

theorem course_startServer (hrun : startServer binary path keyPath session = (result, left)) :
    Course binary path keyPath session left := by
  unfold startServer at hrun
  rcases Sequence.of_bind hrun with ⟨error, hdir, -⟩ | ⟨⟨⟩, ready, hdir, hrest⟩
  · -- Without its directory no key is generated.
    rcases left with ⟨files, calls⟩
    cases calls_makeKeyDirectory hdir
    refine .ungenerated files ?_
    rintro output generated ⟨ready, hready, -⟩
    cases hready.symm.trans hdir
  · rcases ready with ⟨ready, calls⟩
    cases calls_makeKeyDirectory hdir
    rcases Sequence.of_bind hrest with ⟨error, hkeygen, -⟩ | ⟨⟨⟩, middle, hkeygen, hrest⟩
    · -- The run ends with the generator: either it was not started, or it failed.
      rcases call_cases hkeygen with ⟨cause, failure, hcheck, -, rfl⟩ |
        ⟨output, generated, hcheck, houtput, hends, rfl⟩
      · refine .ungenerated ready ?_
        rintro output generated ⟨prepared, hprepared, hstarts, -⟩
        cases hprepared.symm.trans hdir
        cases hstarts.symm.trans hcheck
      · have hfails : output.status.isSuccess = false :=
          Bool.eq_false_iff.mpr fun hsuccess => nomatch hends.mpr hsuccess
        exact .failed ⟨ready, hdir, hcheck, houtput⟩ hfails
    · rcases call_cases hkeygen with ⟨cause, failure, -, hfail, -⟩ |
        ⟨output, generated, hcheck, houtput, hends, rfl⟩
      · cases hfail
      · exact course_of_generates ⟨ready, hdir, hcheck, houtput⟩ (hends.mp rfl) hrest

/-- The binary is called for the key before it is called for the daemon, and not for the daemon
unless the key has been closed. -/
theorem Course.calls (hcourse : Course binary path keyPath session left) :
    ∃ made, left.calls = session.calls ++ made ∧
      made <+: [["keygen", keyPath], ["start-server"]] ∧
      (["keygen", keyPath] ∈ made ↔
        ∃ output generated, Generates binary path keyPath session output generated) ∧
      (["start-server"] ∈ made → ∃ output generated closed,
        Generates binary path keyPath session output generated ∧
        output.status.isSuccess = true ∧ generated.setMode keyPath 0o600 = .ok closed ∧
        left.files = (binary ["start-server"] closed).2) := by
  have hfirst : [["keygen", keyPath]] <+: [["keygen", keyPath], ["start-server"]] :=
    ⟨[["start-server"]], rfl⟩
  cases hcourse with
  | ungenerated files hnot =>
      refine ⟨[], (List.append_nil _).symm, List.nil_prefix, ?_, nofun⟩
      exact iff_of_false nofun fun ⟨output, generated, hgenerates⟩ =>
        hnot output generated hgenerates
  | failed hgenerates | unclosed hgenerates | unasked hgenerates =>
      refine ⟨_, rfl, hfirst, iff_of_true (List.mem_singleton_self _) ⟨_, _, hgenerates⟩, ?_⟩
      simp
  | asked hgenerates hsucceeds hset =>
      refine ⟨_, rfl, List.prefix_refl _, iff_of_true List.mem_cons_self ⟨_, _, hgenerates⟩, ?_⟩
      exact fun _ => ⟨_, _, _, hgenerates, hsucceeds, hset, rfl⟩

/-- A binary that leaves a key closed when it starts the daemon. -/
def Spares (binary : Binary) (keyPath : String) : Prop :=
  ∀ files : Files, files.mode? keyPath = some 0o600 →
    (binary ["start-server"] files).2.mode? keyPath = some 0o600

/-- What a bootstrap leaves of a key depends on how far it comes. -/
theorem Course.mode?_iff {mode : Nat} (hcourse : Course binary path keyPath session left)
    (hgenerates : Generates binary path keyPath session output generated)
    (hfile : generated.isDirectory keyPath = false) (hmode : generated.mode? keyPath = some mode)
    (hspares : ["start-server"] ∈ left.calls.drop session.calls.length → Spares binary keyPath) :
    left.files.mode? keyPath = some 0o600 ↔
      output.status.isSuccess = true ∨ mode = 0o600 := by
  rcases Files.mode?_setMode hfile hmode 0o600 with ⟨reached, hreached, hclosed⟩
  -- A key is generated in one way only, so the course is about these files.
  cases hcourse with
  | ungenerated files hnot =>
      exact absurd hgenerates (hnot output generated)
  | failed hown hfails =>
      rcases hgenerates.unique hown with ⟨rfl, rfl⟩
      simp [hmode, hfails]
  | unclosed hown hsucceeds hmissing =>
      rcases hgenerates.unique hown with ⟨rfl, rfl⟩
      cases hreached.symm.trans hmissing
  | unasked hown hsucceeds hset =>
      rcases hgenerates.unique hown with ⟨rfl, rfl⟩
      cases hreached.symm.trans hset
      exact iff_of_true hclosed (Or.inl hsucceeds)
  | asked hown hsucceeds hset =>
      rcases hgenerates.unique hown with ⟨rfl, rfl⟩
      cases hreached.symm.trans hset
      have hasked : Spares binary keyPath := hspares (by simp)
      exact iff_of_true (hasked reached hclosed) (Or.inl hsucceeds)

/-- A bootstrap that generates a key leaves it closed exactly where the generator succeeds, or where
the generator has closed it: after a failure of the generator the key stays as it is. The daemon is
asked for only after the generator has succeeded and the key has been closed, and only this last
call could open it again. -/
theorem closes_key_iff_generator_succeeds
    (hrun : (startServer binary path keyPath).run session = (result, left)) :
    ∃ made, left.calls = session.calls ++ made ∧
      made <+: [["keygen", keyPath], ["start-server"]] ∧
      (["keygen", keyPath] ∈ made ↔
        ∃ output generated, Generates binary path keyPath session output generated) ∧
      (["start-server"] ∈ made → ∃ output generated closed,
        Generates binary path keyPath session output generated ∧
        output.status.isSuccess = true ∧ generated.setMode keyPath 0o600 = .ok closed ∧
        left.files = (binary ["start-server"] closed).2) ∧
      ∀ output generated mode, Generates binary path keyPath session output generated →
        generated.isDirectory keyPath = false → generated.mode? keyPath = some mode →
        (["start-server"] ∈ made → Spares binary keyPath) →
        (left.files.mode? keyPath = some 0o600 ↔
          output.status.isSuccess = true ∨ mode = 0o600) := by
  have hcourse := course_startServer hrun
  rcases hcourse.calls with ⟨made, hmade, hprefix, hgenerated, hasked⟩
  refine ⟨made, hmade, hprefix, hgenerated, hasked, ?_⟩
  intro output generated mode hgenerates hfile hmode hspares
  refine hcourse.mode?_iff hgenerates hfile hmode fun hcalled => hspares ?_
  rwa [hmade, List.drop_left] at hcalled

/-- A binary that writes an empty key which everybody may read, and whose two runs end as told. -/
def scripted (keygen server : WaitStatus) : Binary
  | ["keygen", keyPath], files =>
    (⟨keygen, [], []⟩, (files.write keyPath [] Files.newFileMode).toOption.getD files)
  | _, files => (⟨server, [], []⟩, files)

def fresh : Session :=
  ⟨(Files.emptyIn ["w".toList]).furnish "adb" (some []) 0o755, []⟩

/-- The generator succeeds with a key that everybody may read, and a signal ends the binary while it
starts the daemon: the bootstrap fails, and the key is closed. -/
theorem closes_key_iff_generator_succeeds_killedDaemon :
    ∃ result left output generated,
      (startServer (scripted (.ofExit 0) (.ofSignal 15)) "./adb" "home/k").run fresh =
        (result, left) ∧
      result.toOption = none ∧ left.calls = [["keygen", "home/k"], ["start-server"]] ∧
      Generates (scripted (.ofExit 0) (.ofSignal 15)) "./adb" "home/k" fresh output generated ∧
      output.status.isSuccess = true ∧ generated.mode? "home/k" = some 0o644 ∧
      left.files.mode? "home/k" = some 0o600 := by
  have hends : ((startServer (scripted (.ofExit 0) (.ofSignal 15)) "./adb" "home/k").run
        fresh).1.toOption = none ∧
      ((startServer (scripted (.ofExit 0) (.ofSignal 15)) "./adb" "home/k").run fresh).2.calls =
        [["keygen", "home/k"], ["start-server"]] := by
    decide +kernel
  rcases hrun : (startServer (scripted (.ofExit 0) (.ofSignal 15)) "./adb" "home/k").run fresh
    with ⟨result, left⟩
  rw [hrun] at hends
  rcases hends with ⟨hfails, hcalls⟩
  rcases closes_key_iff_generator_succeeds hrun with ⟨made, hmade, -, -, hasked, hclosed⟩
  have hboth : made = [["keygen", "home/k"], ["start-server"]] := hmade.symm.trans hcalls
  rcases hasked (by rw [hboth]; decide) with ⟨output, generated, closed, hgenerates, hsucceeds, -⟩
  have hspares : Spares (scripted (.ofExit 0) (.ofSignal 15)) "home/k" := fun _ hkey => hkey
  -- What the generator leaves can be computed from the files that it finds.
  have hgenerated : generated = (scripted (.ofExit 0) (.ofSignal 15) ["keygen", "home/k"]
      (makeKeyDirectory "home/k" fresh).2.files).2 := by
    rcases hgenerates with ⟨ready, hready, -, houtput⟩
    rw [hready]
    exact (congrArg Prod.snd houtput).symm
  have hkey : generated.isDirectory "home/k" = false ∧ generated.mode? "home/k" = some 0o644 := by
    rw [hgenerated]
    decide +kernel
  have hmode := (hclosed output generated 0o644 hgenerates hkey.1 hkey.2 fun _ => hspares).mpr
    (Or.inl hsucceeds)
  exact ⟨result, left, output, generated, rfl, hfails, hcalls, hgenerates, hsucceeds, hkey.2, hmode⟩

/-- A generator that writes a key and then exits with 3 leaves it open, so that everybody may read
it. -/
theorem failing_generator_leaves_key_open :
    fresh.files.mode? "home/.android/adbkey" = none ∧
    ∃ result left,
      (startServer (scripted (.ofExit 3) (.ofExit 0)) "./adb" "home/.android/adbkey").run fresh =
        (result, left) ∧
      result.toOption = none ∧ left.calls = [["keygen", "home/.android/adbkey"]] ∧
      left.files.mode? "home/.android/adbkey" = some 0o644 := by
  refine ⟨by decide +kernel, _, _, rfl, ?_⟩
  decide +kernel

end Adb.Bootstrap

end EmulatorHost
