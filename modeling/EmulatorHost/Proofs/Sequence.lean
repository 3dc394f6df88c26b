/-!
# Operations one after another

An operation that can fail and that changes a state leads on to the next one where it succeeds.
Where it fails nothing more is done, and the state is left as it is then.
-/

namespace EmulatorHost

namespace Sequence

variable {ε σ α β : Type} {first : ExceptT ε (StateM σ) α} {next : α → ExceptT ε (StateM σ) β}
  {state left : σ}

/-- After an operation that succeeds the next one runs on the state that it leaves, be it the
connection of a call or what a run of the command line works with. -/
theorem bind_of_ok {value : α} (hfirst : first state = (.ok value, left))
    (next : α → ExceptT ε (StateM σ) β) : (first >>= next) state = next value left := by
  change (match first state with
    | (outcome, left) => ExceptT.bindCont next outcome left) = _
  rw [hfirst]
  rfl

/-- After an operation that fails nothing more is done. -/
theorem bind_of_error {error : ε} (hfirst : first state = (.error error, left))
    (next : α → ExceptT ε (StateM σ) β) : (first >>= next) state = (.error error, left) := by
  change (match first state with
    | (outcome, left) => ExceptT.bindCont next outcome left) = _
  rw [hfirst]
  rfl

theorem get_bind (state : σ) (next : σ → ExceptT ε (StateM σ) β) :
    ((get : ExceptT ε (StateM σ) σ) >>= next) state = next state state :=
  rfl

/-- A run of two operations ends with the failure of the first one, or with the second one. -/
theorem of_bind {result : Except ε β} (hboth : (first >>= next) state = (result, left)) :
    (∃ error, first state = (.error error, left) ∧ result = .error error) ∨
      ∃ value middle, first state = (.ok value, middle) ∧ next value middle = (result, left) := by
  rcases hfirst : first state with ⟨error | value, middle⟩
  · rw [bind_of_error hfirst] at hboth
    cases hboth
    exact Or.inl ⟨error, rfl, rfl⟩
  · rw [bind_of_ok hfirst] at hboth
    exact Or.inr ⟨value, middle, rfl, hboth⟩

/-- An operation after another has succeeded on what a success of the first one has left. -/
theorem of_bind_ok {value : β} (hboth : (first >>= next) state = (.ok value, left)) :
    ∃ middle reached, first state = (.ok middle, reached) ∧
      next middle reached = (.ok value, left) := by
  rcases of_bind hboth with ⟨error, -, hfail⟩ | hlater
  · cases hfail
  · exact hlater

end Sequence

end EmulatorHost
