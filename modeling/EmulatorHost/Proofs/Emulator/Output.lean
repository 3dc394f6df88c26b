import EmulatorHost.Emulator.ExitReport
import EmulatorHost.Proofs.Emulator.ErrorBlock
import EmulatorHost.Proofs.Text.Lines

/-!
# The two outputs of the emulator

The lines of both streams are taken in the order in which they come, each stream until it has no
further line or until one cannot be read (`Merger`). In whatever order that is, the last error is the
same, and it is what a failed emulator is reported with. The main statement is
`reports_last_block`.
-/

namespace EmulatorHost.Emulator

open Text

/-! ## One stream -/

abbrev Source :=
  Option Bytes

inductive Source.Takes : Source → Option String → Source → Prop where
  -- What comes when a stream is asked for a line: the line, or nothing, and then the stream is read
  -- no longer.
  | line {bytes later : Bytes} {text : String} :
      nextLine bytes = .line text later → Takes (some bytes) (some text) (some later)
  | ended {bytes : Bytes} : nextLine bytes = .ended → Takes (some bytes) none none
  | unreadable {bytes : Bytes} : nextLine bytes = .unreadable → Takes (some bytes) none none

namespace Source

variable {source later : Source} {line : Option String}

def linesLeft : Source → List String
  | some bytes => strictLines bytes
  | none => []

/-- How often a stream is still asked: for each line, and once in vain. -/
def turnsLeft : Source → Nat
  | some bytes => (strictLines bytes).length + 1
  | none => 0

theorem exists_takes {bytes : Bytes} : ∃ line later, Takes (some bytes) line later := by
  cases hnext : nextLine bytes with
  | line text later =>
      exact ⟨some text, some later, .line hnext⟩
  | ended =>
      exact ⟨none, none, .ended hnext⟩
  | unreadable =>
      exact ⟨none, none, .unreadable hnext⟩

theorem Takes.linesLeft_eq (h : Takes source line later) :
    source.linesLeft = line.toList ++ later.linesLeft := by
  cases h with
  | line hnext | ended hnext | unreadable hnext =>
      rw [linesLeft, strictLines_eq, hnext]
      rfl

theorem Takes.turnsLeft_eq (h : Takes source line later) :
    source.turnsLeft = later.turnsLeft + 1 := by
  cases h with
  | line hnext | ended hnext | unreadable hnext =>
      rw [turnsLeft, strictLines_eq, hnext]
      rfl

end Source

/-! ## Both streams -/

structure Merger where
  out : Source
  err : Source
  block : ErrorBlock

namespace Merger

variable {merger next reached : Merger} {count : Nat}

def start (out err : Bytes) : Merger :=
  ⟨some out, some err, .empty⟩

/-- Neither stream is read any longer. -/
def IsOver (merger : Merger) : Prop :=
  merger.out = none ∧ merger.err = none

/-- One of the streams is asked for a line, whichever has one first. Only the lines of the error
stream bear on the block. -/
inductive Turn : Merger → Merger → Prop where
  | out {out later err : Source} {line : Option String} {block : ErrorBlock} :
      out.Takes line later → Turn ⟨out, err, block⟩ ⟨later, err, block⟩
  | err {out err later : Source} {line : Option String} {block : ErrorBlock} :
      err.Takes line later → Turn ⟨out, err, block⟩ ⟨out, later, block.observeAll line.toList⟩

inductive Run (merger : Merger) : Nat → Merger → Prop where
  | none : Run merger 0 merger
  | turn {count : Nat} {reached next : Merger} :
      Run merger count reached → reached.Turn next → Run merger (count + 1) next

def turnsLeft (merger : Merger) : Nat :=
  merger.out.turnsLeft + merger.err.turnsLeft

def finalBlock (merger : Merger) : ErrorBlock :=
  merger.block.observeAll merger.err.linesLeft

theorem isOver_iff : merger.IsOver ↔ merger.turnsLeft = 0 := by
  rcases merger with ⟨_ | out, _ | err, block⟩ <;>
    simp [IsOver, turnsLeft, Source.turnsLeft]

theorem exists_turn (h : ¬ merger.IsOver) : ∃ next, merger.Turn next := by
  rcases merger with ⟨_ | out, _ | err, block⟩
  · exact absurd ⟨rfl, rfl⟩ h
  · rcases Source.exists_takes with ⟨line, later, htakes⟩
    exact ⟨_, .err htakes⟩
  all_goals
    rcases Source.exists_takes with ⟨line, later, htakes⟩
    exact ⟨_, .out htakes⟩

/-- Each turn is one less to come, and none changes what the block will be in the end. -/
theorem Turn.kept (h : merger.Turn next) :
    merger.turnsLeft = next.turnsLeft + 1 ∧ next.finalBlock = merger.finalBlock := by
  cases h with
  | out htakes =>
      refine ⟨?_, rfl⟩
      rw [turnsLeft, turnsLeft, htakes.turnsLeft_eq]
      exact Nat.add_right_comm _ _ _
  | err htakes =>
      constructor
      · rw [turnsLeft, turnsLeft, htakes.turnsLeft_eq]
        rfl
      · rw [finalBlock, finalBlock, htakes.linesLeft_eq, ErrorBlock.observeAll_append]

theorem Run.kept (h : merger.Run count reached) :
    merger.turnsLeft = reached.turnsLeft + count ∧ reached.finalBlock = merger.finalBlock := by
  induction h with
  | none =>
      exact ⟨rfl, rfl⟩
  | turn hrun hturn ih =>
      rcases hturn.kept with ⟨hcount, hblock⟩
      refine ⟨?_, hblock.trans ih.2⟩
      rw [ih.1, hcount, Nat.add_assoc, Nat.add_comm 1]

theorem block_of_isOver (h : merger.IsOver) : merger.block = merger.finalBlock := by
  rw [finalBlock, h.2]
  rfl

end Merger

theorem observeOutput_out (block : ErrorBlock) (lines : List String) :
    (lines.map OutputLine.out).foldl ErrorBlock.observeOutput block = block := by
  induction lines with
  | nil =>
      rfl
  | cons line lines ih =>
      exact ih

theorem mergeOutput_eq (out err : Bytes) :
    mergeOutput out err = (Merger.start out err).finalBlock.lastError := by
  rw [mergeOutput, lastErrorOf, List.foldl_append, observeOutput_out, List.foldl_map]
  rfl

/-! ## The report -/

/-- Without a failed startup, and unless a kill (signal 9) was asked for and carried out, an emulator
that has not succeeded is reported with its last error, or with its status if there is none. -/
theorem exitReport_of_failure {status : WaitStatus} {forced : Bool}
    (hstatus : status.isSuccess = false)
    (hkill : ¬ (forced = true ∧ status.signal? = some 9)) (lastError : String) :
    exitReport (.ok status) forced none lastError =
      some (if lastError = "" then "emulator exited with " ++ status.text else lastError) := by
  have hkilled : ¬ (forced && status.signal? == some WaitStatus.killSignal) = true := by
    rwa [Bool.and_eq_true, beq_iff_eq]
  rw [exitReport, if_neg hkilled, hstatus, if_neg Bool.false_ne_true]
  simp only [String.isEmpty_iff]
  exact (apply_ite some _ _ _).symm

/-- Reading both outputs of the emulator comes to an end after one turn for each line up to the
first that is no text, and one more for each stream, and in whatever order the turns are taken, the
last error is then the text of the last error block among these lines of the error stream. An
emulator that has failed on its own is reported with this text if there is any, and otherwise with
its status. -/
theorem reports_last_block (out err : Bytes) :
    ∃ lines unread text,
      StopsAfter err lines unread ∧ LastBlock lines text ∧
      (∀ other, LastBlock lines other → other = text) ∧
      (∀ count merger, (Merger.start out err).Run count merger →
        count ≤ (strictLines out).length + 1 + ((strictLines err).length + 1) ∧
        (merger.IsOver ↔ count = (strictLines out).length + 1 + ((strictLines err).length + 1)) ∧
        (merger.IsOver → merger.block.lastError = text) ∧
        (¬ merger.IsOver → ∃ next, merger.Turn next)) ∧
      mergeOutput out err = text ∧
      (∀ status forced, status.isSuccess = false →
        ¬ (forced = true ∧ status.signal? = some 9) →
        exitReport (.ok status) forced none text =
          some (if text = "" then "emulator exited with " ++ status.text else text)) := by
  rcases exists_stopsAfter err with ⟨unread, hstops⟩
  rcases LastBlock.exists_text (strictLines err) with ⟨text, hlast⟩
  have hfinal : (Merger.start out err).finalBlock.lastError = text := hlast.lastError_eq
  refine ⟨strictLines err, unread, text, hstops, hlast, ?_, ?_, ?_, ?_⟩
  · intro other hother
    exact hlast.unique hother
  · intro count merger hrun
    rcases hrun.kept with ⟨hcount, hblock⟩
    change (strictLines out).length + 1 + ((strictLines err).length + 1) = _ at hcount
    refine ⟨by omega, ?_, ?_, Merger.exists_turn⟩
    · rw [Merger.isOver_iff]
      omega
    · intro hover
      rw [Merger.block_of_isOver hover, hblock, hfinal]
  · rw [mergeOutput_eq, hfinal]
  · intro status forced hstatus hkill
    exact exitReport_of_failure hstatus hkill text

/-- A block that is opened again, noise after its end, and a block behind a line that is no text. -/
theorem reports_last_block_reopened :
    let err := Bytes.ofString "ERROR   | a\nERROR   | b\r\n c\nINFO    | d\ne\n" ++
      [0xFF, 10] ++ Bytes.ofString "ERROR   | f\n"
    mergeOutput [] err = "b\n c" ∧ (WaitStatus.ofExit 1).isSuccess = false ∧
      ¬ (false = true ∧ (WaitStatus.ofExit 1).signal? = some 9) ∧
      exitReport (.ok (.ofExit 1)) false none (mergeOutput [] err) = some "b\n c" := by
  intro err
  rcases reports_last_block [] err with ⟨lines, unread, text, -, -, -, -, hmerged, hreport⟩
  have htext : text = "b\n c" := by
    rw [← hmerged]
    decide +kernel
  have hstatus : (WaitStatus.ofExit 1).isSuccess = false := by
    decide
  have hkill : ¬ (false = true ∧ (WaitStatus.ofExit 1).signal? = some 9) := by
    decide
  have hfailed := hreport _ _ hstatus hkill
  rw [hmerged]
  subst htext
  exact ⟨rfl, hstatus, hkill, hfailed⟩

end EmulatorHost.Emulator
