import EmulatorHost.Properties
import EmulatorHost.Proofs.Text.Blank
import EmulatorHost.Proofs.Text.Lines
import Mathlib.Data.Set.List
import Mathlib.Logic.Relation

/-!
# What a property file says

A row of a property file says a value for a key by its first equals sign, if it is no comment
(`Says`). The value that is found is the one that the first row says for the key. So it makes no
difference what stands in rows that say nothing for the key, in rows after the first one that does,
and in the blanks around keys, values and rows, which include the carriage returns at line ends.
-/

namespace EmulatorHost.Properties

open Text (isBlank trimChars)

variable {key value row row' before after : List Char}

/-! ## One row -/

/-- The first character of the row that is no blank marks a comment. -/
def IsComment (row : List Char) : Prop :=
  ∃ gap mark rest, row = gap ++ mark :: rest ∧ (∀ c ∈ gap, isBlank c = true) ∧
    (mark = '#' ∨ mark = ';')

inductive Says : List Char → List Char → List Char → Prop where
  -- The row is no comment, and gives the key this value.
  | entry {before after : List Char} (hfirst : '=' ∉ before)
      (hplain : ¬ IsComment (before ++ '=' :: after)) :
      Says (before ++ '=' :: after) (trimChars before) (trimChars after)

theorem isComment_iff : isComment (trimChars row) = true ↔ IsComment row := by
  have hhead : isComment (trimChars row) = true ↔
      (row.dropWhile isBlank).head? = some '#' ∨ (row.dropWhile isBlank).head? = some ';' := by
    simp [isComment, Text.head?_trimChars]
  rw [hhead]
  constructor
  · intro hmark
    rcases hrest : row.dropWhile isBlank with _ | ⟨mark, rest⟩
    · simp [hrest] at hmark
    · refine ⟨row.takeWhile isBlank, mark, rest, ?_, fun c hc => List.mem_takeWhile_imp hc, ?_⟩
      · rw [← hrest, List.takeWhile_append_dropWhile]
      · simpa [hrest] using hmark
  · rintro ⟨gap, mark, rest, rfl, hgap, rfl | rfl⟩
    · rw [List.dropWhile_append_of_pos hgap]
      exact Or.inl rfl
    · rw [List.dropWhile_append_of_pos hgap]
      exact Or.inr rfl

theorem splitAtEquals?_of_free (hfree : '=' ∉ row) : splitAtEquals? row = none := by
  induction row with
  | nil =>
      rfl
  | cons c row ih =>
      rw [List.mem_cons, not_or] at hfree
      simp [splitAtEquals?, Ne.symm hfree.1, ih hfree.2]

theorem splitAtEquals?_append (hfirst : '=' ∉ before) (after : List Char) :
    splitAtEquals? (before ++ '=' :: after) = some (before, after) := by
  induction before with
  | nil =>
      rfl
  | cons c before ih =>
      rw [List.mem_cons, not_or] at hfirst
      simp [splitAtEquals?, Ne.symm hfirst.1, ih hfirst.2]

theorem entry?_of_free (hfree : '=' ∉ row) : entry? row = none := by
  have htrimmed : '=' ∉ trimChars row := fun hmem => hfree (Text.mem_of_mem_trimChars hmem)
  unfold entry?
  simp [splitAtEquals?_of_free htrimmed]

theorem entry?_congr (htrim : trimChars row = trimChars row') : entry? row = entry? row' := by
  unfold entry?
  rw [htrim]

/-- Whether a row is a comment shows before its first equals sign. -/
theorem isComment_append (before after : List Char) :
    isComment (trimChars (before ++ '=' :: after)) = isComment (trimChars before) := by
  have hequals : isBlank '=' = false := by decide
  rw [isComment, isComment, Text.head?_trimChars, Text.head?_trimChars,
    Text.dropWhile_blank_append hequals]
  -- The first character that is no blank is the equals sign, or stands before it.
  cases before.dropWhile isBlank <;> rfl

/-- A row with an equals sign gives what stands around the first one, unless it is a comment. -/
theorem entry?_append (hfirst : '=' ∉ before) (after : List Char) :
    entry? (before ++ '=' :: after) =
      if isComment (trimChars before) then none else some (trimChars before, trimChars after) := by
  have hequals : isBlank '=' = false := by decide
  have hbefore : '=' ∉ before.dropWhile isBlank := fun hmem =>
    hfirst ((List.dropWhile_sublist isBlank).mem hmem)
  have hsplit : splitAtEquals? (trimChars (before ++ '=' :: after)) =
      some (before.dropWhile isBlank, after.rdropWhile isBlank) := by
    rw [Text.trimChars_append_mark hequals, splitAtEquals?_append hbefore]
  unfold entry?
  simp [hsplit, isComment_append, Text.trimChars_dropWhile, Text.trimChars_rdropWhile]

theorem entry?_eq_some_iff : entry? row = some (key, value) ↔ Says row key value := by
  constructor
  · intro hentry
    by_cases hmem : '=' ∈ row
    · rcases List.eq_append_cons_of_mem hmem with ⟨before, after, rfl, hfirst⟩
      rw [entry?_append hfirst] at hentry
      split at hentry
      · cases hentry
      · rename_i hplain
        cases hentry
        refine .entry hfirst fun hcomment => hplain ?_
        rw [← isComment_append before after]
        exact isComment_iff.mpr hcomment
    · rw [entry?_of_free hmem] at hentry
      cases hentry
  · rintro ⟨hfirst, hplain⟩
    rw [← isComment_iff, isComment_append] at hplain
    rw [entry?_append hfirst, if_neg hplain]

/-- What a row says for a key. -/
def valueFor? (key row : List Char) : Option (List Char) :=
  entry? row |>.bind fun entry => if entry.1 = key then some entry.2 else none

theorem valueFor?_eq_some_iff : valueFor? key row = some value ↔ Says row key value := by
  rw [← entry?_eq_some_iff]
  rcases hentry : entry? row with _ | ⟨other, content⟩
  · simp [valueFor?, hentry]
  · simp [valueFor?, hentry]

theorem valueFor?_eq_none_iff : valueFor? key row = none ↔ ∀ value, ¬ Says row key value := by
  simp [Option.eq_none_iff_forall_ne_some, valueFor?_eq_some_iff]

/-! ## The rows of a text -/

abbrev Row := { chars : List Char // '\n' ∉ chars }

/-- The text of these rows, with a line end between any two. -/
def textOf (lineEnd : List Char) (rows : List Row) : String :=
  String.ofList (lineEnd.intercalate (rows.map Subtype.val))

theorem intercalate_concat (feed : Char) (ended : List (List Char)) (rest : List Char) :
    [feed].intercalate (ended ++ [rest]) = ended.flatMap (· ++ [feed]) ++ rest := by
  induction ended with
  | nil =>
      exact List.intercalate_singleton
  | cons piece ended ih =>
      have hsome : ended ++ [rest] ≠ [] := by simp
      rw [List.cons_append, List.intercalate_cons_of_ne_nil hsome, ih, List.flatMap_cons,
        List.append_assoc, List.append_assoc, List.append_assoc]

theorem pieces_rows (ended : List Row) (rest : Row) :
    Text.Pieces '\n' (['\n'].intercalate ((ended ++ [rest]).map Subtype.val))
      (ended.map Subtype.val) rest.val where
  items_eq := by
    rw [List.map_append, List.map_singleton, intercalate_concat]
  ended_free := by
    intro piece hpiece
    rcases List.mem_map.mp hpiece with ⟨row, -, rfl⟩
    exact row.property
  rest_free := rest.property

/-- Every text has rows. -/
theorem exists_rows (text : String) : ∃ rows : List Row, rows ≠ [] ∧ textOf ['\n'] rows = text := by
  rcases Text.exists_pieces '\n' text.toList with ⟨ended, rest, hpieces⟩
  lift ended to List Row using hpieces.ended_free
  refine ⟨ended ++ [⟨rest, hpieces.rest_free⟩], by simp, ?_⟩
  rw [textOf, List.map_append, List.map_singleton, intercalate_concat, ← hpieces.items_eq,
    String.ofList_toList]

theorem entry?_dropTrailing (line : List Char) :
    entry? (Text.dropTrailing '\r' line) = entry? line := by
  refine entry?_congr ?_
  unfold Text.dropTrailing
  rcases hlast : line.getLast? with _ | last
  · rfl
  · dsimp only
    split
    · rename_i hback
      rcases List.getLast?_eq_some_iff.mp hlast with ⟨first, rfl⟩
      have hblank : ∀ c ∈ [last], isBlank c = true := by
        rw [beq_iff_eq.mp hback]
        exact List.all_eq_true.mp (by decide)
      rw [List.dropLast_concat, Text.trimChars_append_blanks hblank]
    · rfl

/-- The entries of a text are those of its rows. -/
theorem entries_rows (rows : List Row) :
    entries (['\n'].intercalate (rows.map Subtype.val)) = rows.filterMap fun row => entry? row.val := by
  rcases List.eq_nil_or_concat' rows with rfl | ⟨ended, rest, rfl⟩
  · rfl
  · -- An empty last row is no line, but it gives no entry either.
    have hrest : (if rest.val = [] then [] else [rest.val]).filterMap entry? =
        [rest.val].filterMap entry? := by
      split
      · rename_i hnone
        rw [hnone]
        rfl
      · rfl
    have hended : ((ended.map Subtype.val).map (Text.dropTrailing '\r')).filterMap entry? =
        (ended.map Subtype.val).filterMap entry? := by
      rw [List.filterMap_map]
      exact List.filterMap_congr fun line _ => entry?_dropTrailing line
    rw [entries, Text.lines, Text.linesAt_of_pieces (pieces_rows ended rest), List.filterMap_append,
      hrest, hended, ← List.filterMap_append, ← List.map_singleton, ← List.map_append,
      List.filterMap_map]
    rfl

theorem find?_textOf (key : String) (rows : List Row) :
    find? (textOf ['\n'] rows) key =
      (rows.findSome? fun row => valueFor? key.toList row.val).map String.ofList := by
  have hfirst : ((rows.filterMap fun row => entry? row.val).find? fun entry =>
      entry.1 == key.toList).map Prod.snd = rows.findSome? fun row => valueFor? key.toList row.val := by
    induction rows with
    | nil =>
        rfl
    | cons row rows ih =>
        rw [List.findSome?_cons, ← ih]
        rcases hentry : entry? row.val with _ | ⟨other, content⟩
        · simp [valueFor?, hentry]
        · by_cases hother : other = key.toList <;> simp [valueFor?, hentry, hother]
  rw [find?, textOf, String.toList_ofList, entries_rows, ← hfirst, Option.map_map]
  rfl

/-! ## Changes that make no difference -/

inductive Silent (key : List Char) : List Char → Prop where
  -- A row that says nothing for the key.
  | blank {row : List Char} (hblank : ∀ c ∈ row, isBlank c = true) : Silent key row
  | comment {row : List Char} (hcomment : IsComment row) : Silent key row
  | bare {row : List Char} (hfree : '=' ∉ row) : Silent key row
  | other {before after : List Char} (hfirst : '=' ∉ before) (hother : trimChars before ≠ key) :
      Silent key (before ++ '=' :: after)

/-- Two rows that differ in blanks alone, which stand around the row or around its first equals
sign. -/
inductive Respaced : List Char → List Char → Prop where
  | ends {left left' right right' : List Char} (core : List Char)
      (hblank : ∀ c ∈ left ++ left' ++ right ++ right', isBlank c = true) :
      Respaced (left ++ core ++ right) (left' ++ core ++ right')
  | middle {left left' right right' : List Char} {before : List Char} (hfirst : '=' ∉ before)
      (hblank : ∀ c ∈ left ++ left' ++ right ++ right', isBlank c = true) (after : List Char) :
      Respaced (before ++ left ++ '=' :: (right ++ after))
        (before ++ left' ++ '=' :: (right' ++ after))

/-- A change to the rows of a text that makes no difference to the key. -/
inductive Edit (key : List Char) : List Row → List Row → Prop where
  | insert (before after : List Row) {row : Row} (hsilent : Silent key row.val) :
      Edit key (before ++ after) (before ++ row :: after)
  | again (before middle after : List Row) {first row : Row} {value content : List Char}
      (hfirst : Says first.val key value) (hlater : Says row.val key content) :
      Edit key (before ++ first :: (middle ++ after)) (before ++ first :: (middle ++ row :: after))
  | respace {rows rows' : List Row}
      (hrows : List.Forall₂ (fun row row' : Row => Respaced row.val row'.val) rows rows') :
      Edit key rows rows'

theorem valueFor?_of_silent (hsilent : Silent key row) : valueFor? key row = none := by
  rw [valueFor?_eq_none_iff]
  intro value hgives
  have hentry := entry?_eq_some_iff.mpr hgives
  cases hsilent with
  | blank hblank =>
      have hfree : '=' ∉ row := fun hmem => absurd (hblank '=' hmem) (by decide)
      rw [entry?_of_free hfree] at hentry
      cases hentry
  | comment hcomment =>
      cases hgives with
      | entry hfirst hplain =>
          exact hplain hcomment
  | bare hfree =>
      rw [entry?_of_free hfree] at hentry
      cases hentry
  | other hfirst hother =>
      rw [entry?_append hfirst] at hentry
      split at hentry
      · cases hentry
      · cases hentry
        exact hother rfl

theorem Respaced.entry?_eq (hrespaced : Respaced row row') : entry? row = entry? row' := by
  cases hrespaced with
  | ends core hblank =>
      simp only [List.forall_mem_append] at hblank
      rcases hblank with ⟨⟨⟨hleft, hleft'⟩, hright⟩, hright'⟩
      refine entry?_congr ?_
      rw [Text.trimChars_append_blanks hright, Text.trimChars_append_blanks hright',
        Text.trimChars_blanks_append hleft, Text.trimChars_blanks_append hleft']
  | @middle left left' right right' before hfirst hblank after =>
      simp only [List.forall_mem_append] at hblank
      rcases hblank with ⟨⟨⟨hleft, hleft'⟩, hright⟩, hright'⟩
      have hfree {gap : List Char} (hgap : ∀ c ∈ gap, isBlank c = true) : '=' ∉ before ++ gap := by
        rw [List.mem_append, not_or]
        exact ⟨hfirst, fun hmem => absurd (hgap '=' hmem) (by decide)⟩
      rw [entry?_append (hfree hleft), entry?_append (hfree hleft'),
        Text.trimChars_append_blanks hleft, Text.trimChars_append_blanks hleft',
        Text.trimChars_blanks_append hright, Text.trimChars_blanks_append hright']

theorem Respaced.refl (row : List Char) : Respaced row row := by
  have hsame : Respaced ([] ++ row ++ []) ([] ++ row ++ []) := .ends row (by simp)
  simpa using hsame

/-- A carriage return at the end of a row is a blank. -/
theorem Respaced.back (row : List Char) : Respaced row (row ++ ['\r']) := by
  have hblank : ∀ c ∈ ['\r'], isBlank c = true := List.all_eq_true.mp (by decide)
  have hback : Respaced ([] ++ row ++ []) ([] ++ row ++ ['\r']) := .ends row hblank
  simpa using hback

theorem findSome?_respaced {rows rows' : List Row}
    (hrows : List.Forall₂ (fun row row' : Row => Respaced row.val row'.val) rows rows')
    (key : List Char) :
    (rows.findSome? fun row => valueFor? key row.val) =
      rows'.findSome? fun row => valueFor? key row.val := by
  induction hrows with
  | nil =>
      rfl
  | cons hrow hrows ih =>
      rw [List.findSome?_cons, List.findSome?_cons, ih, valueFor?, valueFor?, hrow.entry?_eq]

theorem Edit.findSome?_eq {rows rows' : List Row} (hedit : Edit key rows rows') :
    (rows.findSome? fun row => valueFor? key row.val) =
      rows'.findSome? fun row => valueFor? key row.val := by
  cases hedit with
  | insert before after hsilent =>
      simp [List.findSome?_append, valueFor?_of_silent hsilent]
  | again before middle after hfirst hlater =>
      -- The search is over when it comes to the first of the two.
      simp [List.findSome?_append, valueFor?_eq_some_iff.mpr hfirst]
  | respace hrows =>
      exact findSome?_respaced hrows key

/-- A text whose rows end with a carriage return, too, has rows that differ in those alone. -/
theorem exists_respaced (rows : List Row) :
    ∃ rows' : List Row, textOf ['\r', '\n'] rows = textOf ['\n'] rows' ∧
      List.Forall₂ (fun row row' : Row => Respaced row.val row'.val) rows rows' := by
  have hchars : ∃ rows' : List Row, ['\r', '\n'].intercalate (rows.map Subtype.val) =
      ['\n'].intercalate (rows'.map Subtype.val) ∧
        List.Forall₂ (fun row row' : Row => Respaced row.val row'.val) rows rows' := by
    induction rows with
    | nil =>
        exact ⟨[], rfl, .nil⟩
    | cons row later ih =>
        rcases ih with ⟨later', hlater, hrows⟩
        by_cases hnone : later = []
        · -- The last row is without a line end.
          subst hnone
          exact ⟨[row], rfl, .cons (.refl row.val) .nil⟩
        · have hsome : later.map Subtype.val ≠ [] := List.map_eq_nil_iff.not.mpr hnone
          have hsome' : later'.map Subtype.val ≠ [] := by
            intro hnone'
            rw [List.map_eq_nil_iff.mp hnone'] at hrows
            cases hrows
            exact hnone rfl
          have hfree : '\n' ∉ row.val ++ ['\r'] := by
            simp [row.property]
          refine ⟨⟨row.val ++ ['\r'], hfree⟩ :: later', ?_, .cons (.back row.val) hrows⟩
          rw [List.map_cons, List.map_cons, List.intercalate_cons_of_ne_nil hsome,
            List.intercalate_cons_of_ne_nil hsome', hlater]
          simp
  rcases hchars with ⟨rows', htext, hrows⟩
  exact ⟨rows', congrArg String.ofList htext, hrows⟩

/-- The value that is found for a key is the one that the first row says that says any. So it is the
same after any changes that make no difference to the key, and with any line ends. -/
theorem finds_first_said (key : String) :
    (∀ text, ∃ rows : List Row, rows ≠ [] ∧ textOf ['\n'] rows = text) ∧
      (∀ (rows : List Row) (value : String), find? (textOf ['\n'] rows) key = some value ↔
        ∃ before row after, rows = before ++ row :: after ∧
          Says row.val key.toList value.toList ∧
          ∀ other ∈ before, ∀ content, ¬ Says other.val key.toList content) ∧
      (∀ rows rows' : List Row, Relation.EqvGen (Edit key.toList) rows rows' →
        find? (textOf ['\n'] rows') key = find? (textOf ['\n'] rows) key) ∧
      ∀ rows : List Row,
        find? (textOf ['\r', '\n'] rows) key = find? (textOf ['\n'] rows) key := by
  have hedits : ∀ rows rows' : List Row, Relation.EqvGen (Edit key.toList) rows rows' →
      find? (textOf ['\n'] rows') key = find? (textOf ['\n'] rows) key := by
    intro rows rows' hedits
    induction hedits with
    | rel rows rows' hedit =>
        rw [find?_textOf, find?_textOf, hedit.findSome?_eq]
    | refl rows =>
        rfl
    | symm rows rows' _ ih =>
        exact ih.symm
    | trans rows middle rows' _ _ ihfirst ihlater =>
        exact ihlater.trans ihfirst
  refine ⟨exists_rows, ?_, hedits, ?_⟩
  · intro rows value
    have hvalue : find? (textOf ['\n'] rows) key = some value ↔
        (rows.findSome? fun row => valueFor? key.toList row.val) = some value.toList := by
      rw [find?_textOf, Option.map_eq_some_iff]
      constructor
      · rintro ⟨content, hfound, rfl⟩
        rw [hfound, String.toList_ofList]
      · intro hfound
        exact ⟨value.toList, hfound, String.ofList_toList⟩
    rw [hvalue, List.findSome?_eq_some_iff]
    simp only [valueFor?_eq_some_iff, valueFor?_eq_none_iff]
  · intro rows
    rcases exists_respaced rows with ⟨rows', htext, hrows⟩
    rw [htext]
    exact hedits rows rows' (.rel _ _ (.respace hrows))

/-- Before the row comes a comment, after it another one for its key, and around it are blanks. -/
theorem finds_first_said_amongOthers :
    let plain : Row := ⟨"ro.abi=b=c#d".toList, by decide⟩
    let spaced : Row := ⟨"\tro.abi=b=c#d \r".toList, by decide⟩
    let comment : Row := ⟨"; ro.abi=x".toList, by decide⟩
    let again : Row := ⟨"ro.abi=z".toList, by decide⟩
    Relation.EqvGen (Edit "ro.abi".toList) [plain] [comment, spaced, again] ∧
      find? (textOf ['\n'] [comment, spaced, again]) "ro.abi" =
        find? (textOf ['\n'] [plain]) "ro.abi" ∧
      find? (textOf ['\n'] [plain]) "ro.abi" = some "b=c#d" := by
  intro plain spaced comment again
  have hgives : Says plain.val "ro.abi".toList "b=c#d".toList :=
    entry?_eq_some_iff.mp (by decide)
  have hagain : Says again.val "ro.abi".toList "z".toList := entry?_eq_some_iff.mp (by decide)
  have hcomment : Silent "ro.abi".toList comment.val :=
    .comment ⟨[], ';', " ro.abi=x".toList, by decide, nofun, Or.inr rfl⟩
  have hspaced : Respaced ([] ++ plain.val ++ []) (['\t'] ++ plain.val ++ [' ', '\r']) :=
    .ends plain.val (List.all_eq_true.mp (by decide))
  have hedits : Relation.EqvGen (Edit "ro.abi".toList) [plain] [comment, spaced, again] :=
    .trans _ _ _ (.rel _ _ (.insert [] [plain] hcomment))
      (.trans _ _ _ (.rel _ _ (.again [comment] [] [] hgives hagain))
        (.rel _ _ (.respace (.cons (.refl _) (.cons hspaced (.cons (.refl _) .nil))))))
  rcases finds_first_said "ro.abi" with ⟨-, hfound, hsame, -⟩
  refine ⟨hedits, hsame _ _ hedits, (hfound [plain] "b=c#d").mpr ⟨[], plain, [], rfl, hgives, ?_⟩⟩
  intro other hother
  cases hother

end EmulatorHost.Properties
