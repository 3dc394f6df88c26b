import EmulatorHost.Emulator.ErrorBlock
import Mathlib.Data.List.Basic
import Mathlib.Tactic.Common

/-!
# The last error block

What an error block is, said of all the lines of a stream at once (`LastBlock`), and that the block
that is followed line by line comes to the same (`LastBlock.lastError_eq`).
-/

namespace EmulatorHost.Emulator

open Text

/-! ## Marks -/

/-- A line begins with a mark. -/
def Begins (mark line : String) : Prop :=
  ∃ rest, line = mark ++ rest

/-- A line opens an error block. -/
def Opens (line : String) : Prop :=
  Begins "ERROR   |" line

/-- A line ends the error block before it. -/
def Ends (line : String) : Prop :=
  Begins "WARNING |" line ∨ Begins "INFO    |" line

theorem begins_iff {mark line : String} :
    Begins mark line ↔ mark.toList.isPrefixOf line.toList = true := by
  rw [List.isPrefixOf_iff_prefix]
  constructor
  · rintro ⟨rest, rfl⟩
    exact ⟨rest.toList, String.toList_append.symm⟩
  · rintro ⟨rest, hrest⟩
    refine ⟨String.ofList rest, String.toList_inj.mp ?_⟩
    rw [String.toList_append, String.toList_ofList, hrest]

theorem Ends.not_opens {line : String} (h : Ends line) : ¬ Opens line := by
  -- The marks begin with different letters.
  rintro ⟨rest, rfl⟩
  rcases h with ⟨other, hsame⟩ | ⟨other, hsame⟩
  all_goals
    have hlists := congrArg String.toList hsame
    rw [String.toList_append, String.toList_append] at hlists
    have hletters := congrArg List.head? hlists
    rw [List.head?_append_of_ne_nil _ (by decide), List.head?_append_of_ne_nil _ (by decide)]
      at hletters
    exact absurd hletters (by decide)

namespace LineKind

variable {line : String}

theorem ofLine_opens (rest : String) : ofLine ("ERROR   |" ++ rest).toList = .opens rest.toList := by
  have hmark : errorMark.isPrefixOf ("ERROR   |" ++ rest).toList = true := begins_iff.mp ⟨rest, rfl⟩
  have hdrop : ("ERROR   |" ++ rest).toList.drop errorMark.length = rest.toList := by
    rw [String.toList_append]
    exact List.drop_left
  rw [ofLine, afterMark?, if_pos hmark, hdrop]

theorem afterMark?_of_not_opens (hopens : ¬ Opens line) :
    afterMark? errorMark line.toList = none :=
  if_neg (mt begins_iff.mpr hopens)

theorem ofLine_of_ends (h : Ends line) : ofLine line.toList = .ends := by
  have hmark : (warningMark.isPrefixOf line.toList || infoMark.isPrefixOf line.toList) = true := by
    rw [Bool.or_eq_true]
    exact h.imp begins_iff.mp begins_iff.mp
  rw [ofLine, afterMark?_of_not_opens h.not_opens]
  exact if_pos hmark

theorem ofLine_of_plain (hopens : ¬ Opens line) (hends : ¬ Ends line) :
    ofLine line.toList = .plain := by
  have hmark : ¬ (warningMark.isPrefixOf line.toList || infoMark.isPrefixOf line.toList) = true := by
    rw [Bool.or_eq_true]
    exact mt (Or.imp begins_iff.mpr begins_iff.mpr) hends
  rw [ofLine, afterMark?_of_not_opens hopens]
  exact if_neg hmark

end LineKind

namespace ErrorBlock

variable {line : String} {lines body : List String}

def observeAll (block : ErrorBlock) (lines : List String) : ErrorBlock :=
  lines.foldl (fun block line => block.observe line.toList) block

theorem observeAll_append (block : ErrorBlock) (lines later : List String) :
    block.observeAll (lines ++ later) = (block.observeAll lines).observeAll later :=
  List.foldl_append

/-- Lines that neither open nor end a block go on in the one that is open. -/
theorem observeAll_body (hplain : ∀ line ∈ body, ¬ Opens line ∧ ¬ Ends line) (text : List Char) :
    observeAll ⟨true, text⟩ body = ⟨true, text ++ body.flatMap fun line => '\n' :: line.toList⟩ := by
  induction body generalizing text with
  | nil =>
      rw [List.flatMap_nil, List.append_nil]
      rfl
  | cons line body ih =>
      rw [List.forall_mem_cons] at hplain
      have hfirst : observe ⟨true, text⟩ line.toList = ⟨true, text ++ '\n' :: line.toList⟩ := by
        rw [observe, LineKind.ofLine_of_plain hplain.1.1 hplain.1.2]
        rfl
      calc
        observeAll ⟨true, text⟩ (line :: body)
            = observeAll (observe ⟨true, text⟩ line.toList) body := rfl
        _ = observeAll ⟨true, text ++ '\n' :: line.toList⟩ body := by rw [hfirst]
        _ = _ := by rw [ih hplain.2, List.flatMap_cons, List.append_assoc]

/-- Without a block that is open, lines that open none change nothing. -/
theorem observeAll_quiet (hquiet : ∀ line ∈ lines, ¬ Opens line) (text : List Char) :
    observeAll ⟨false, text⟩ lines = ⟨false, text⟩ := by
  induction lines with
  | nil =>
      rfl
  | cons line lines ih =>
      rw [List.forall_mem_cons] at hquiet
      have hfirst : observe ⟨false, text⟩ line.toList = ⟨false, text⟩ := by
        by_cases hends : Ends line
        · rw [observe, LineKind.ofLine_of_ends hends]
        · rw [observe, LineKind.ofLine_of_plain hquiet.1 hends]
          rfl
      calc
        observeAll ⟨false, text⟩ (line :: lines)
            = observeAll (observe ⟨false, text⟩ line.toList) lines := rfl
        _ = ⟨false, text⟩ := by rw [hfirst, ih hquiet.2]

/-- A line that ends the block closes it, and until another is opened nothing is added. -/
theorem observeAll_text_of_ended (hquiet : ∀ line ∈ lines, ¬ Opens line)
    (hends : ∀ line ∈ lines.head?, Ends line) (block : ErrorBlock) :
    (block.observeAll lines).text = block.text := by
  rcases lines with _ | ⟨line, later⟩
  · rfl
  · rw [List.forall_mem_cons] at hquiet
    have hfirst : block.observe line.toList = ⟨false, block.text⟩ := by
      rw [observe, LineKind.ofLine_of_ends (hends line rfl)]
    change ((block.observe line.toList).observeAll later).text = block.text
    rw [hfirst, observeAll_quiet hquiet.2]

end ErrorBlock

/-! ## The last block of all lines -/

/-- The text of the last error block: the lines from the last one that opens a block, less its mark,
up to the next one that ends a block, without blanks at the ends; and nothing if no line opens a
block. -/
inductive LastBlock : List String → String → Prop where
  | absent {lines : List String} : (∀ line ∈ lines, ¬ Opens line) → LastBlock lines ""
  | block {before body after : List String} {rest : String} :
      (∀ line ∈ body, ¬ Opens line ∧ ¬ Ends line) → (∀ line ∈ after, ¬ Opens line) →
      (∀ line ∈ after.head?, Ends line) →
      LastBlock (before ++ ("ERROR   |" ++ rest) :: (body ++ after))
        (trim ("\n".intercalate (rest :: body)))

namespace LastBlock

variable {lines : List String} {line text : String}

theorem exists_body (hquiet : ∀ line ∈ lines, ¬ Opens line) :
    ∃ body after, lines = body ++ after ∧ (∀ line ∈ body, ¬ Opens line ∧ ¬ Ends line) ∧
      (∀ line ∈ after, ¬ Opens line) ∧ ∀ line ∈ after.head?, Ends line := by
  induction lines with
  | nil =>
      exact ⟨[], [], rfl, by simp, by simp, by simp⟩
  | cons line lines ih =>
      by_cases hends : Ends line
      · refine ⟨[], line :: lines, rfl, by simp, hquiet, ?_⟩
        rintro _ ⟨rfl⟩
        exact hends
      · rw [List.forall_mem_cons] at hquiet
        rcases ih hquiet.2 with ⟨body, after, rfl, hbody, hafter, hhead⟩
        exact ⟨line :: body, after, rfl,
          List.forall_mem_cons.mpr ⟨⟨hquiet.1, hends⟩, hbody⟩, hafter, hhead⟩

theorem exists_text (lines : List String) : ∃ text, LastBlock lines text := by
  -- A line before the last block does not bear on it, whatever it does there.
  induction lines with
  | nil =>
      exact ⟨"", .absent (by simp)⟩
  | cons line lines ih =>
      rcases ih with ⟨text, hlast⟩
      cases hlast with
      | @block before body after rest hbody hafter hhead =>
          have hgrown : LastBlock (line :: before ++ ("ERROR   |" ++ rest) :: (body ++ after))
              (trim ("\n".intercalate (rest :: body))) := .block hbody hafter hhead
          exact ⟨_, hgrown⟩
      | absent hquiet =>
          by_cases hopens : Opens line
          · rcases hopens with ⟨rest, rfl⟩
            rcases exists_body hquiet with ⟨body, after, rfl, hbody, hafter, hhead⟩
            have hfirst : LastBlock ([] ++ ("ERROR   |" ++ rest) :: (body ++ after))
                (trim ("\n".intercalate (rest :: body))) := .block hbody hafter hhead
            exact ⟨_, hfirst⟩
          · exact ⟨"", .absent (List.forall_mem_cons.mpr ⟨hopens, hquiet⟩)⟩

theorem joined_toList (rest : String) (body : List String) :
    ("\n".intercalate (rest :: body)).toList =
      rest.toList ++ body.flatMap fun line => '\n' :: line.toList := by
  induction body generalizing rest with
  | nil =>
      simp
  | cons line body ih =>
      rw [String.intercalate_cons_cons, String.toList_append, String.toList_append, ih,
        List.flatMap_cons, List.append_assoc]
      rfl

/-- The block that is followed line by line comes to the last block. -/
theorem lastError_eq (h : LastBlock lines text) :
    (ErrorBlock.empty.observeAll lines).lastError = text := by
  cases h with
  | absent hquiet =>
      have hnone := ErrorBlock.observeAll_quiet hquiet []
      change (ErrorBlock.observeAll ⟨false, []⟩ lines).lastError = ""
      rw [hnone]
      rfl
  | @block before body after rest hbody hafter hhead =>
      -- What came before is given up when the block is opened.
      rw [ErrorBlock.observeAll_append]
      generalize ErrorBlock.empty.observeAll before = earlier
      change (ErrorBlock.observeAll (earlier.observe ("ERROR   |" ++ rest).toList)
        (body ++ after)).lastError = _
      have hopened : earlier.observe ("ERROR   |" ++ rest).toList = ⟨true, rest.toList⟩ := by
        rw [ErrorBlock.observe, LineKind.ofLine_opens]
      rw [hopened, ErrorBlock.observeAll_append, ErrorBlock.observeAll_body hbody,
        ErrorBlock.lastError, ErrorBlock.observeAll_text_of_ended hafter hhead, ← joined_toList]
      rfl

theorem unique {other : String} (h : LastBlock lines text) (hother : LastBlock lines other) :
    other = text :=
  hother.lastError_eq.symm.trans h.lastError_eq

end LastBlock

end EmulatorHost.Emulator
