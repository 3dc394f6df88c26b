import EmulatorHost.Text.Lines
import EmulatorHost.Proofs.Text.Utf8
import Mathlib.Data.List.TakeWhile

/-!
# Lines of a stream

A stream is cut at its line feeds in one way only (`Pieces`), and its lines are read off that. A
strict line reader takes one line after another off the stream until there is none, or until one is
no text (`nextLine`). What it yields in all are the lines before the first that is no text
(`StopsAfter`).
-/

namespace EmulatorHost.Text

/-! ## Cutting at a separator -/

section Pieces

variable {α : Type}

/-- The items are pieces that the separator ends, and then a rest that it does not end. -/
structure Pieces (separator : α) (items : List α) (ended : List (List α)) (rest : List α) :
    Prop where
  items_eq : items = ended.flatMap (· ++ [separator]) ++ rest
  ended_free : ∀ piece ∈ ended, separator ∉ piece
  rest_free : separator ∉ rest

namespace Pieces

variable {separator : α} {items rest piece : List α} {ended : List (List α)}

theorem of_free (hfree : separator ∉ rest) : Pieces separator rest [] rest :=
  ⟨rfl, by simp, hfree⟩

theorem cons (hfree : separator ∉ piece) (hlater : Pieces separator items ended rest) :
    Pieces separator (piece ++ separator :: items) (piece :: ended) rest where
  items_eq := by
    rw [hlater.items_eq]
    simp
  ended_free := List.forall_mem_cons.mpr ⟨hfree, hlater.ended_free⟩
  rest_free := hlater.rest_free

end Pieces

theorem exists_pieces (separator : α) (items : List α) :
    ∃ ended rest, Pieces separator items ended rest := by
  -- On the length: what follows the first separator is shorter.
  induction hlength : items.length using Nat.strongRecOn generalizing items with
  | ind length ih =>
      by_cases hmem : separator ∈ items
      · rcases List.eq_append_cons_of_mem hmem with ⟨piece, later, rfl, hfree⟩
        have hless : later.length < length := by
          rw [← hlength, List.length_append, List.length_cons]
          omega
        rcases ih later.length hless later rfl with ⟨ended, rest, hlater⟩
        exact ⟨piece :: ended, rest, hlater.cons hfree⟩
      · exact ⟨[], items, .of_free hmem⟩

variable [BEq α] [LawfulBEq α] {separator feed back : α} {items rest piece : List α}
  {ended : List (List α)}

theorem splitOnto_append (hfree : separator ∉ piece) (done : List (List α)) (current later : List α) :
    splitOnto separator done current (piece ++ later) =
      splitOnto separator done (piece.reverse ++ current) later := by
  induction piece generalizing current with
  | nil =>
      rfl
  | cons item piece ih =>
      rw [List.mem_cons, not_or] at hfree
      have hitem : (item == separator) = false := beq_eq_false_iff_ne.mpr (Ne.symm hfree.1)
      rw [List.cons_append, splitOnto, hitem, if_neg Bool.false_ne_true, ih hfree.2,
        List.reverse_cons, List.append_assoc]
      rfl

theorem splitOnto_of_pieces (hpieces : Pieces separator items ended rest)
    (done : List (List α)) :
    splitOnto separator done [] items = (done.reverse ++ ended, rest) := by
  rcases hpieces with ⟨rfl, hended, hrest⟩
  induction ended generalizing done with
  | nil =>
      have hall := splitOnto_append hrest done [] []
      rw [List.append_nil] at hall
      change splitOnto separator done [] rest = _
      rw [hall, splitOnto, List.append_nil, List.append_nil, List.reverse_reverse]
  | cons piece ended ih =>
      rw [List.forall_mem_cons] at hended
      have hitems : (piece :: ended).flatMap (· ++ [separator]) ++ rest =
          piece ++ separator :: (ended.flatMap (· ++ [separator]) ++ rest) := by
        simp
      rw [hitems, splitOnto_append hended.1, splitOnto, if_pos (beq_self_eq_true separator),
        List.append_nil, List.reverse_reverse, ih _ hended.2]
      simp

/-- Cutting at each separator is the one way to cut there. -/
theorem splitAtEach_eq_iff :
    splitAtEach separator items = (ended, rest) ↔ Pieces separator items ended rest := by
  constructor
  · intro hsplit
    rcases exists_pieces separator items with ⟨ended', rest', hpieces⟩
    have hsame : (ended', rest') = (ended, rest) := by
      rw [← hsplit, splitAtEach, splitOnto_of_pieces hpieces]
      rfl
    cases hsame
    exact hpieces
  · intro hpieces
    rw [splitAtEach, splitOnto_of_pieces hpieces]
    rfl

theorem linesAt_of_pieces (hpieces : Pieces feed items ended rest) :
    linesAt feed back items =
      ended.map (dropTrailing back) ++ if rest = [] then [] else [rest] := by
  rw [linesAt, splitAtEach_eq_iff.mpr hpieces]
  simp

theorem linesAt_of_free (hfree : feed ∉ items) (hsome : items ≠ []) :
    linesAt feed back items = [items] := by
  rw [linesAt_of_pieces (.of_free hfree), if_neg hsome]
  rfl

theorem linesAt_append (hfree : feed ∉ piece) :
    linesAt feed back (piece ++ feed :: items) =
      dropTrailing back piece :: linesAt feed back items := by
  rcases exists_pieces feed items with ⟨ended, rest, hpieces⟩
  rw [linesAt_of_pieces hpieces, linesAt_of_pieces (hpieces.cons hfree)]
  rfl

end Pieces

/-! ## Reading line after line -/

inductive Reading where
  -- A line, and what follows it in the stream.
  | line (text : String) (later : Bytes)
  -- The stream has ended.
  | ended
  -- The line is no text.
  | unreadable

/-- Asks for the next line: everything up to the next line feed, less one carriage return before
it, or else all that is left. -/
def nextLine (bytes : Bytes) : Reading :=
  if bytes = [] then .ended
  else
    let piece := bytes.takeWhile (· != 10)
    let later := bytes.dropWhile (· != 10)
    match Utf8.decode? (if later = [] then piece else dropTrailing 13 piece) with
    | some text => .line text later.tail
    | none => .unreadable

theorem exists_line {bytes : Bytes} (hsome : bytes ≠ []) :
    ∃ line later, rawLines bytes = line :: rawLines later ∧ later.length < bytes.length ∧
      nextLine bytes =
        match Utf8.decode? line with
        | some text => .line text later
        | none => .unreadable := by
  by_cases hmem : 10 ∈ bytes
  · rcases List.eq_append_cons_of_mem hmem with ⟨piece, later, rfl, hfree⟩
    have hpiece : ∀ byte ∈ piece, (byte != 10) = true := by
      intro byte hbyte
      exact bne_iff_ne.mpr (ne_of_mem_of_not_mem hbyte hfree)
    have htake : (piece ++ 10 :: later).takeWhile (· != 10) = piece := by
      rw [List.takeWhile_append_of_pos hpiece]
      simp
    have hdrop : (piece ++ 10 :: later).dropWhile (· != 10) = 10 :: later := by
      rw [List.dropWhile_append_of_pos hpiece]
      simp
    refine ⟨dropTrailing 13 piece, later, linesAt_append hfree, ?_, ?_⟩
    · rw [List.length_append, List.length_cons]
      omega
    · rw [nextLine, if_neg hsome, htake, hdrop]
      rfl
  · have hall : ∀ byte ∈ bytes, (byte != 10) = true := by
      intro byte hbyte
      exact bne_iff_ne.mpr (ne_of_mem_of_not_mem hbyte hmem)
    refine ⟨bytes, [], ?_, List.length_pos_iff.mpr hsome, ?_⟩
    · rw [rawLines, linesAt_of_free hmem hsome]
      rfl
    · rw [nextLine, if_neg hsome, List.takeWhile_eq_self_iff.mpr hall,
        List.dropWhile_eq_nil_iff.mpr hall]
      rfl

/-- A reader that is asked again and again yields the strict lines. -/
theorem strictLines_eq (bytes : Bytes) :
    strictLines bytes =
      match nextLine bytes with
      | .line text later => text :: strictLines later
      | .ended | .unreadable => [] := by
  by_cases hsome : bytes = []
  · subst hsome
    rfl
  · rcases exists_line hsome with ⟨line, later, hlines, -, hnext⟩
    rw [strictLines, hlines, leadingSome, hnext]
    cases Utf8.decode? line <;> rfl

theorem length_lt_of_nextLine {bytes later : Bytes} {text : String}
    (hnext : nextLine bytes = .line text later) : later.length < bytes.length := by
  by_cases hsome : bytes = []
  · subst hsome
    cases hnext
  · rcases exists_line hsome with ⟨line, later', -, hless, hline⟩
    rw [hline] at hnext
    cases htext : Utf8.decode? line with
    | some text' =>
        rw [htext] at hnext
        cases hnext
        exact hless
    | none =>
        rw [htext] at hnext
        cases hnext

/-! ## Up to the first line that is no text -/

/-- The lines of a stream are these texts, up to the first line that is none, if there is one. -/
structure StopsAfter (bytes : Bytes) (texts : List String) (unread : List Bytes) : Prop where
  lines_eq : rawLines bytes = texts.map Bytes.ofString ++ unread
  unreadable : ∀ line ∈ unread.head?, ¬ Utf8.IsText line

theorem exists_leadingSome (lines : List Bytes) :
    ∃ unread, lines = (leadingSome Utf8.decode? lines).map Bytes.ofString ++ unread ∧
      ∀ line ∈ unread.head?, ¬ Utf8.IsText line := by
  induction lines with
  | nil =>
      exact ⟨[], rfl, by simp⟩
  | cons line later ih =>
      rw [leadingSome]
      cases htext : Utf8.decode? line with
      | some text =>
          rcases ih with ⟨unread, hlater, hunread⟩
          refine ⟨unread, ?_, hunread⟩
          rw [List.map_cons, List.cons_append, ← hlater, Utf8.decode?_eq_some_iff.mp htext]
      | none =>
          refine ⟨line :: later, rfl, ?_⟩
          intro first hfirst
          cases hfirst
          exact Utf8.decode?_eq_none_iff.mp htext

theorem exists_stopsAfter (bytes : Bytes) : ∃ unread, StopsAfter bytes (strictLines bytes) unread := by
  rcases exists_leadingSome (rawLines bytes) with ⟨unread, hlines, hunread⟩
  exact ⟨unread, hlines, hunread⟩

/-- When all lines have been read, they are texts, and only then. -/
theorem StopsAfter.unread_eq_nil_iff {bytes : Bytes} {texts : List String} {unread : List Bytes}
    (h : StopsAfter bytes texts unread) : unread = [] ↔ ∀ line ∈ rawLines bytes, Utf8.IsText line := by
  rw [h.lines_eq]
  constructor
  · rintro rfl line hline
    rw [List.append_nil, List.mem_map] at hline
    rcases hline with ⟨text, -, rfl⟩
    exact ⟨text, rfl⟩
  · intro hall
    rcases unread with _ | ⟨line, later⟩
    · rfl
    · have htext := hall line (by simp)
      exact absurd htext (h.unreadable line rfl)

end EmulatorHost.Text
