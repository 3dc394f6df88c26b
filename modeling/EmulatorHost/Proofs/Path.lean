import EmulatorHost.Path
import Mathlib.Data.List.Basic

/-!
# Where a joined path lies

What a path names on its way is read off the pieces between its separators, and a separator between
two texts keeps their pieces apart. So joining a relative path goes on from where the first one has
come to (`components_joinChars`), and the joined path lies below it. Joining an absolute path does
not: it starts again at the root.
-/

namespace EmulatorHost.Path

variable {base rest : List Char}

/-! ## Pieces -/

theorem piecesFrom_append_separator (pending first later : List Char) :
    piecesFrom pending (first ++ '/' :: later) = piecesFrom pending first ++ piecesFrom [] later := by
  induction first generalizing pending with
  | nil =>
      rfl
  | cons c first ih =>
      by_cases hseparator : c = '/'
      · subst hseparator
        simp [piecesFrom, ih]
      · simp [piecesFrom, ih, hseparator]

theorem piecesFrom_ne_nil (pending path : List Char) : piecesFrom pending path ≠ [] := by
  induction path generalizing pending with
  | nil =>
      simp [piecesFrom]
  | cons c path ih =>
      by_cases hseparator : c = '/'
      · simp [piecesFrom, hseparator]
      · simpa [piecesFrom, hseparator] using ih (c :: pending)

theorem head?_piecesFrom_append (first later : List Char) :
    (piecesFrom [] (first ++ '/' :: later)).head? = (piecesFrom [] first).head? := by
  rw [piecesFrom_append_separator, List.head?_append_of_ne_nil _ (piecesFrom_ne_nil [] first)]

theorem names_append_separator (first later : List Char) :
    names (first ++ '/' :: later) = names first ++ names later := by
  simp [names, piecesFrom_append_separator]

/-! ## Joining -/

theorem joinChars_of_absolute (habsolute : isAbsolute rest = true) : joinChars base rest = rest := by
  simp [joinChars, habsolute]

/-- A relative path is joined by a separator, which may be there already. -/
theorem exists_joinChars (hrelative : isAbsolute rest = false) (hsome : base ≠ []) :
    ∃ first, joinChars base rest = first ++ '/' :: rest ∧ (base = first ∨ base = first ++ ['/']) := by
  have hbase : base.isEmpty = false := List.isEmpty_eq_false_iff.mpr hsome
  by_cases hended : base.getLast? = some '/'
  · rcases List.getLast?_eq_some_iff.mp hended with ⟨first, rfl⟩
    exact ⟨first, by simp [joinChars, hrelative], Or.inr rfl⟩
  · exact ⟨base, by simp [joinChars, hrelative, hbase, hended], Or.inl rfl⟩

theorem components_eq (path : List Char) :
    components path =
      (if isAbsolute path then [.root]
        else if (piecesFrom [] path).head? == some ['.'] then [.here] else []) ++
        (names path).map .name :=
  rfl

/-- A path goes on after a separator with the names that follow. -/
theorem components_append_separator {first : List Char} (hsome : first ≠ []) (later : List Char) :
    components (first ++ '/' :: later) = components first ++ (names later).map .name := by
  have habsolute : isAbsolute (first ++ '/' :: later) = isAbsolute first := by
    rw [isAbsolute, isAbsolute, List.head?_append_of_ne_nil _ hsome]
  rw [components_eq, components_eq, habsolute, head?_piecesFrom_append, names_append_separator,
    List.map_append, List.append_assoc]

/-- Joining a relative path goes on from where the first one has come to. -/
theorem components_joinChars (hrelative : isAbsolute rest = false) (hsome : base ≠ []) :
    components (joinChars base rest) = components base ++ (names rest).map .name := by
  -- The two cases are a base without a separator at its end, and one with it.
  rcases exists_joinChars hrelative hsome with ⟨first, hjoin, rfl | rfl⟩
  · rw [hjoin, components_append_separator hsome]
  · rw [hjoin]
    by_cases hroot : first = []
    · subst hroot
      rfl
    · -- The separator that was there names nothing of its own.
      have hnothing : names [] = [] := rfl
      rw [components_append_separator hroot, components_append_separator hroot, hnothing,
        List.map_nil, List.append_nil]

/-! ## Joining names -/

/-- A piece that names something in the directory that it stands in. -/
structure IsPlain (piece : List Char) : Prop where
  free : '/' ∉ piece
  named : isVoid piece = false

instance (piece : List Char) : Decidable (IsPlain piece) :=
  decidable_of_iff ('/' ∉ piece ∧ isVoid piece = false)
    ⟨fun h => ⟨h.1, h.2⟩, fun h => ⟨h.free, h.named⟩⟩

theorem piecesFrom_of_free {path : List Char} (hfree : '/' ∉ path) (pending : List Char) :
    piecesFrom pending path = [pending.reverse ++ path] := by
  induction path generalizing pending with
  | nil =>
      simp [piecesFrom]
  | cons c path ih =>
      rw [List.mem_cons, not_or] at hfree
      simp [piecesFrom, Ne.symm hfree.1, ih hfree.2]

namespace IsPlain

variable {piece : List Char}

theorem isAbsolute_eq (hplain : IsPlain piece) : isAbsolute piece = false := by
  rcases piece with _ | ⟨c, piece⟩
  · rfl
  · have hc : c ≠ '/' := fun hc => hplain.free (hc ▸ List.mem_cons_self)
    simp [isAbsolute, hc]

theorem names_eq (hplain : IsPlain piece) : names piece = [piece] := by
  simp [names, piecesFrom_of_free hplain.free, hplain.named]

theorem components_eq (hplain : IsPlain piece) : components piece = [.name piece] := by
  have hhere : piece ≠ ['.'] := by
    rintro rfl
    exact absurd hplain.named (by decide)
  simp [components, hplain.isAbsolute_eq, hplain.names_eq, piecesFrom_of_free hplain.free, hhere]

/-- A name that is joined lies right below, whatever it is joined to. -/
theorem components_joinChars (hplain : IsPlain piece) (base : List Char) :
    components (joinChars base piece) = components base ++ [.name piece] := by
  by_cases hnone : base = []
  · subst hnone
    have hjoin : joinChars [] piece = piece := by
      simp [joinChars, hplain.isAbsolute_eq]
    rw [hjoin, hplain.components_eq]
    rfl
  · rw [Path.components_joinChars hplain.isAbsolute_eq hnone, hplain.names_eq]
    rfl

end IsPlain

/-- Names that are joined one after another lead down one by one. -/
theorem components_foldl_join {pieces : List String} (hplain : ∀ piece ∈ pieces, IsPlain piece.toList)
    (base : String) :
    components (pieces.foldl join base).toList =
      components base.toList ++ pieces.map fun piece => Component.name piece.toList := by
  induction pieces generalizing base with
  | nil =>
      simp
  | cons piece pieces ih =>
      rw [List.forall_mem_cons] at hplain
      have hjoin : (join base piece).toList = joinChars base.toList piece.toList :=
        String.toList_ofList
      calc components ((piece :: pieces).foldl join base).toList
          = components (join base piece).toList ++ pieces.map fun piece => Component.name piece.toList :=
            ih hplain.2 (join base piece)
        _ = components base.toList ++ (piece :: pieces).map fun piece => Component.name piece.toList := by
            rw [hjoin, hplain.1.components_joinChars, List.append_assoc]
            rfl

end EmulatorHost.Path
