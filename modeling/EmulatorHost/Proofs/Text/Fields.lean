import EmulatorHost.Text.Blank

/-!
# Fields of a line

The fields of a line are the words that stand between its blanks. `Fielded` says so by the line
alone: blanks, a word that reaches up to the next blank or to the end, and so on. There is one way
only to see a line so, and it is how its fields are read (`fields_eq_iff`).
-/

namespace EmulatorHost.Text

inductive Fielded : List Char → List (List Char) → Prop
  -- The line is these words, with blanks around them.
  | blank {gap : List Char} (hgap : ∀ c ∈ gap, isBlank c = true) : Fielded gap []
  | word {gap word later : List Char} {words : List (List Char)}
      (hgap : ∀ c ∈ gap, isBlank c = true) (hsome : word ≠ [])
      (hword : ∀ c ∈ word, isBlank c = false) (hend : ∀ c ∈ later.head?, isBlank c = true)
      (hlater : Fielded later words) : Fielded (gap ++ (word ++ later)) (word :: words)

variable {gap word later line : List Char} {words : List (List Char)}

/-! ## Reading the fields off -/

theorem fieldsFrom_blanks (hgap : ∀ c ∈ gap, isBlank c = true) (later : List Char) :
    fieldsFrom [] (gap ++ later) = fieldsFrom [] later := by
  induction gap with
  | nil =>
      rfl
  | cons c gap ih =>
      rw [List.forall_mem_cons] at hgap
      rw [List.cons_append, fieldsFrom, if_pos hgap.1, if_pos List.isEmpty_nil]
      exact ih hgap.2

theorem fieldsFrom_word (hword : ∀ c ∈ word, isBlank c = false) (pending later : List Char) :
    fieldsFrom pending (word ++ later) = fieldsFrom (word.reverse ++ pending) later := by
  induction word generalizing pending with
  | nil =>
      rfl
  | cons c word ih =>
      rw [List.forall_mem_cons] at hword
      have hplain : ¬ isBlank c = true := Bool.eq_false_iff.mp hword.1
      rw [List.cons_append, fieldsFrom, if_neg hplain, ih hword.2, List.reverse_cons,
        List.append_assoc]
      rfl

/-- A pending word ends at the next blank, or with the line. -/
theorem fieldsFrom_ended {pending : List Char} (hsome : pending ≠ [])
    (hend : ∀ c ∈ later.head?, isBlank c = true) :
    fieldsFrom pending later = pending.reverse :: fieldsFrom [] later := by
  have hpending : ¬ pending.isEmpty = true := by
    rw [List.isEmpty_iff]
    exact hsome
  cases later with
  | nil =>
      rw [fieldsFrom, if_neg hpending]
      rfl
  | cons c rest =>
      have hblank : isBlank c = true := hend c rfl
      rw [fieldsFrom, if_pos hblank, if_neg hpending, fieldsFrom, if_pos hblank,
        if_pos List.isEmpty_nil]

theorem fields_of_fielded (hfielded : Fielded line words) : fields line = words := by
  induction hfielded with
  | blank hgap =>
      have hnothing := fieldsFrom_blanks hgap []
      rw [List.append_nil] at hnothing
      exact hnothing
  | @word gap word later words hgap hsome hword hend hlater ih =>
      have hpending : word.reverse ++ [] ≠ [] := by
        rw [List.append_nil]
        exact mt List.reverse_eq_nil_iff.mp hsome
      rw [fields, fieldsFrom_blanks hgap, fieldsFrom_word hword, fieldsFrom_ended hpending hend,
        List.append_nil, List.reverse_reverse]
      exact congrArg (word :: ·) ih

/-! ## Every line has fields -/

theorem Fielded.cons_blank {c : Char} (hblank : isBlank c = true) (hfielded : Fielded line words) :
    Fielded (c :: line) words := by
  cases hfielded with
  | blank hgap =>
      exact .blank (List.forall_mem_cons.mpr ⟨hblank, hgap⟩)
  | word hgap hsome hword hend hlater =>
      exact .word (List.forall_mem_cons.mpr ⟨hblank, hgap⟩) hsome hword hend hlater

/-- A character that is no blank is a word of its own before a blank, and else begins the first
word. -/
theorem Fielded.exists_cons {c : Char} (hplain : isBlank c = false)
    (hfielded : Fielded line words) : ∃ words', Fielded (c :: line) words' := by
  have hnone : ∀ c ∈ ([] : List Char), isBlank c = true := nofun
  have halone (hend : ∀ c ∈ line.head?, isBlank c = true) : Fielded (c :: line) ([c] :: words) :=
    .word hnone (List.cons_ne_nil c []) (List.forall_mem_singleton.mpr hplain) hend hfielded
  cases hfielded with
  | blank hgap =>
      exact ⟨_, halone fun c hc => hgap c (List.mem_of_mem_head? hc)⟩
  | @word gap word later words hgap hsome hword hend hlater =>
      cases gap with
      | nil =>
          exact ⟨_, .word hnone (List.cons_ne_nil c word)
            (List.forall_mem_cons.mpr ⟨hplain, hword⟩) hend hlater⟩
      | cons first gap =>
          refine ⟨_, halone ?_⟩
          rintro c ⟨⟩
          exact hgap first List.mem_cons_self

theorem exists_fielded (line : List Char) : ∃ words, Fielded line words := by
  induction line with
  | nil =>
      exact ⟨[], .blank nofun⟩
  | cons c line ih =>
      rcases ih with ⟨words, hfielded⟩
      cases hblank : isBlank c with
      | true =>
          exact ⟨words, hfielded.cons_blank hblank⟩
      | false =>
          exact hfielded.exists_cons hblank

theorem fields_eq_iff : fields line = words ↔ Fielded line words := by
  constructor
  · intro hfields
    rcases exists_fielded line with ⟨words', hfielded⟩
    rw [← hfields, fields_of_fielded hfielded]
    exact hfielded
  · exact fields_of_fielded

end EmulatorHost.Text
