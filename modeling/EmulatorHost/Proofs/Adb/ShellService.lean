import EmulatorHost.Adb.Shell

/-!
# What a service name asks for

The name of the service that opens a shell gives the terminal, the kind of the shell and the command
one after another, and nothing marks where the name of the terminal ends. So a terminal whose name
contains a kind of shell can be taken for one with a shorter name, and what comes after that kind for
the beginning of a command (`Request.Absorbs`). There is no other way in which different requests have
the same service name. The main statement is `service_eq_iff`.
-/

namespace EmulatorHost.Adb.Shell

/-! ## Where a kind of shell stands in a text -/

/-- A kind of shell as a service name gives it, with the colon before the command. -/
def Kind.mark : Kind → String
  | .raw => ",raw:"
  | .terminal => ",pty:"

namespace Kind

/-- A mark begins with a comma and has no other one. -/
theorem exists_mark_eq (kind : Kind) :
    ∃ letters, kind.mark.toList = ',' :: letters ∧ letters.length = 4 ∧ ',' ∉ letters := by
  cases kind with
  | raw =>
      exact ⟨['r', 'a', 'w', ':'], by decide⟩
  | terminal =>
      exact ⟨['p', 't', 'y', ':'], by decide⟩

theorem mark_inj {one other : Kind} (hsame : one.mark.toList = other.mark.toList) :
    one = other := by
  revert hsame
  cases one <;> cases other <;> decide

/-- Marks do not overlap: where a text begins with a mark, another mark is at the same place or comes
after it. -/
theorem mark_append_cases {one other : Kind} {front rest tail : List Char}
    (hsame : one.mark.toList ++ rest = front ++ (other.mark.toList ++ tail)) :
    (front = [] ∧ one = other ∧ rest = tail) ∨
      ∃ between, front = one.mark.toList ++ between ∧
        rest = between ++ (other.mark.toList ++ tail) := by
  rcases one.exists_mark_eq with ⟨letters, hone, hlength, hcomma⟩
  rcases other.exists_mark_eq with ⟨letters', hother, hlength', -⟩
  rcases List.append_eq_append_iff.mp hsame with hafter | ⟨part, hmark, hrest⟩
  · exact Or.inr hafter
  · cases front with
    | nil =>
        -- Both marks are at the beginning, and they are of one length.
        have hsizes : one.mark.toList.length = other.mark.toList.length := by
          simp [hone, hother, hlength, hlength']
        rw [List.nil_append] at hsame
        rcases List.append_inj hsame hsizes with ⟨hmarks, hrests⟩
        exact Or.inl ⟨rfl, mark_inj hmarks, hrests⟩
    | cons letter front =>
        cases part with
        | nil =>
            -- The other mark comes right after the first one.
            refine Or.inr ⟨[], ?_, ?_⟩
            · simpa using hmark.symm
            · simpa using hrest.symm
        | cons comma part =>
            -- The comma of the other mark would be inside the first one.
            have hinside : letters = front ++ comma :: part := by
              have hboth := hone.symm.trans hmark
              simp only [List.cons_append, List.cons.injEq] at hboth
              exact hboth.2
            have hsign : comma = ',' := by
              simp only [hother, List.cons_append, List.cons.injEq] at hrest
              exact hrest.1.symm
            subst hsign
            exact absurd (by simp [hinside]) hcomma

/-- Two texts, each with a mark in it, are the same text only if the mark is the same one, or if each
of the marks is there beside the other one. -/
theorem append_mark_cases {one other : Kind} {before before' rest rest' : List Char}
    (hsame : before ++ (one.mark.toList ++ rest) = before' ++ (other.mark.toList ++ rest')) :
    (before = before' ∧ one = other ∧ rest = rest') ∨
      (∃ between, before' = before ++ (one.mark.toList ++ between) ∧
        rest = between ++ (other.mark.toList ++ rest')) ∨
      ∃ between, before = before' ++ (other.mark.toList ++ between) ∧
        rest' = between ++ (one.mark.toList ++ rest) := by
  rcases List.append_eq_append_iff.mp hsame with ⟨front, rfl, hmarks⟩ | ⟨front, rfl, hmarks⟩
  · rcases mark_append_cases hmarks with ⟨rfl, hkind, hrest⟩ | ⟨between, rfl, hrest⟩
    · exact Or.inl ⟨by simp, hkind, hrest⟩
    · exact Or.inr (Or.inl ⟨between, rfl, hrest⟩)
  · rcases mark_append_cases hmarks with ⟨rfl, hkind, hrest⟩ | ⟨between, rfl, hrest⟩
    · exact Or.inl ⟨by simp, hkind.symm, hrest.symm⟩
    · exact Or.inr (Or.inr ⟨between, rfl, hrest⟩)

end Kind

namespace Request

/-! ## Requests with one service name -/

/-- The requests ask for the same shell. An empty command is none. -/
def Alike (one other : Request) : Prop :=
  one.kind = other.kind ∧ one.term = other.term ∧ one.command.getD "" = other.command.getD ""

/-- The name of the terminal of `other` is that of the terminal of `one`, the kind of `one` and a text
between; and the command of `one` is this text, the kind of `other` and the command of `other`. -/
def Absorbs (other one : Request) : Prop :=
  ∃ term between, one.term = some term ∧ other.term = some (term ++ one.kind.mark ++ between) ∧
    one.command.getD "" = between ++ other.kind.mark ++ other.command.getD ""

/-- The name of the terminal contains no kind of shell. -/
def IsPlain (request : Request) : Prop :=
  ∀ before (kind : Kind) after, request.term ≠ some (before ++ kind.mark ++ after)

def termText (request : Request) : String :=
  request.term.elim "" (",TERM=" ++ ·)

variable {one other : Request}

theorem toList_service (request : Request) :
    request.service.toList = "shell,v2".toList ++ (request.termText.toList ++
      (request.kind.mark.toList ++ (request.command.getD "").toList)) := by
  rcases request with ⟨_ | _, command, _ | term⟩ <;>
    simp [service, termText, Kind.mark]

theorem service_eq (request : Request) :
    request.service =
      "shell,v2" ++ request.termText ++ request.kind.mark ++ request.command.getD "" := by
  apply String.toList_injective
  simp only [toList_service, String.toList_append, List.append_assoc]

theorem termText_inj (hsame : one.termText = other.termText) : one.term = other.term := by
  have hletters := congrArg String.toList hsame
  rcases one with ⟨kind, command, _ | term⟩ <;> rcases other with ⟨kind', command', _ | term'⟩
  · rfl
  · simp [termText] at hletters
  · simp [termText] at hletters
  · simpa [termText, String.toList_inj] using hletters

/-- A service name that goes on with a kind right after another text about the terminal has been
absorbed into the name of a terminal. -/
theorem absorbs_of_termText {between : List Char}
    (hterm : other.termText.toList =
      one.termText.toList ++ (one.kind.mark.toList ++ between))
    (hcommand : (one.command.getD "").toList =
      between ++ (other.kind.mark.toList ++ (other.command.getD "").toList)) :
    other.Absorbs one := by
  have hspelled : one.command.getD "" =
      String.ofList between ++ other.kind.mark ++ other.command.getD "" := by
    apply String.toList_injective
    simpa using hcommand
  rcases hother : other.term with _ | term'
  · -- Nothing is said of a terminal, so there is no place for a kind in it.
    rcases one.kind.exists_mark_eq with ⟨letters, hmark, -⟩
    simp [termText, hother, hmark] at hterm
  · rcases hone : one.term with _ | term
    · -- After `shell,v2` comes a kind in one name, and the word for a terminal in the other.
      have hbegins : ",TERM=".toList ++ term'.toList = one.kind.mark.toList ++ between := by
        simpa [termText, hone, hother] using hterm
      exfalso
      revert hbegins
      cases one.kind <;> simp [Kind.mark]
    · have hname : term' = term ++ one.kind.mark ++ String.ofList between := by
        apply String.toList_injective
        simpa [termText, hone, hother] using hterm
      exact ⟨term, String.ofList between, hone, hname ▸ hother, hspelled⟩

theorem service_eq_of_alike (halike : one.Alike other) : one.service = other.service := by
  rcases halike with ⟨hkind, hterm, hcommand⟩
  apply String.toList_injective
  simp only [toList_service, termText, hkind, hterm, hcommand]

theorem service_eq_of_absorbs (habsorbs : other.Absorbs one) : one.service = other.service := by
  rcases habsorbs with ⟨term, between, hone, hother, hcommand⟩
  apply String.toList_injective
  simp [toList_service, termText, hone, hother, hcommand]

/-- Two requests have the same service name exactly if they ask for the same shell, or if one of them
has a terminal whose name absorbs the kind and the beginning of the command of the other one. So where
no name of a terminal contains a kind of shell, a service name says what was asked for. -/
theorem service_eq_iff (one other : Request) :
    (one.service = other.service ↔
      one.Alike other ∨ other.Absorbs one ∨ one.Absorbs other) ∧
    (one.IsPlain → other.IsPlain → one.service = other.service → one.Alike other) := by
  have hcases : one.service = other.service →
      one.Alike other ∨ other.Absorbs one ∨ one.Absorbs other := by
    intro hsame
    have hletters := congrArg String.toList hsame
    rw [toList_service, toList_service] at hletters
    have hparts := List.append_cancel_left hletters
    rcases Kind.append_mark_cases hparts with
      ⟨hterm, hkind, hcommand⟩ | ⟨between, hterm, hcommand⟩ | ⟨between, hterm, hcommand⟩
    · refine Or.inl ⟨hkind, ?_, ?_⟩
      · exact termText_inj (String.toList_injective hterm)
      · exact String.toList_injective hcommand
    · exact Or.inr (Or.inl (absorbs_of_termText hterm hcommand))
    · exact Or.inr (Or.inr (absorbs_of_termText hterm hcommand))
  refine ⟨⟨hcases, ?_⟩, ?_⟩
  · rintro (halike | habsorbs | habsorbs)
    · exact service_eq_of_alike halike
    · exact service_eq_of_absorbs habsorbs
    · exact (service_eq_of_absorbs habsorbs).symm
  · intro hone hother hsame
    rcases hcases hsame with halike | habsorbs | habsorbs
    · exact halike
    · rcases habsorbs with ⟨term, between, -, hterm, -⟩
      exact absurd hterm (hother term one.kind between)
    · rcases habsorbs with ⟨term, between, -, hterm, -⟩
      exact absurd hterm (hone term other.kind between)

/-- An interactive shell on a terminal whose name contains a kind is asked for in the same words as a
command on another terminal, without an interactive shell. -/
theorem absorbed_kind_not_alike :
    ¬ ∀ one other : Request, one.service = other.service → one.Alike other := by
  intro hclaim
  have hsame : (Request.mk .terminal none (some "xterm,raw:id;")).service =
      (Request.mk .raw (some "id;,pty:") (some "xterm")).service := by decide
  have hkinds := (hclaim _ _ hsame).1
  cases hkinds

end Request

end EmulatorHost.Adb.Shell
