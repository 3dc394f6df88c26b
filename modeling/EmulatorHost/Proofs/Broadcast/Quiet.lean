import EmulatorHost.Proofs.Broadcast.Waits

/-!
# Steps of listeners

Most steps of a hub are those of its listeners. They leave alone what the callers share
(`Step.IsQuiet`), and a listener gets by them only what was stored before. So what a listener has got
is never older than what was there when it was made.
-/

namespace EmulatorHost.Broadcast

variable {α : Type}

/-- A step that leaves alone what callers share: it stores nothing, closes nothing and notifies
nobody. -/
def Step.IsQuiet : Step α → Prop
  | store _ | close | notify => False
  | _ => True

theorem Step.isQuiet_of_listener {step : Step α} {mover : Nat}
    (hown : step.listener? = some mover) : step.IsQuiet := by
  cases step with
  | store value | close | notify | listen =>
      cases hown
  | _ =>
      trivial

namespace Step.IsQuiet

variable {step : Step α} (hquiet : step.IsQuiet) (steps : List (Step α))

include hquiet

theorem stored_eq : stored (steps ++ [step]) = stored steps := by
  cases step with
  | store value | close | notify =>
      exact hquiet.elim
  | _ =>
      simp [stored, Step.stored?]

theorem closedBy_eq : closedBy (steps ++ [step]) = closedBy steps := by
  cases step with
  | store value | close | notify =>
      exact hquiet.elim
  | _ =>
      simp [closedBy, Step.isClose]

theorem slot_eq : (Hub.after (steps ++ [step])).slot = (Hub.after steps).slot := by
  rw [Hub.slot_after, Hub.slot_after, stored_eq hquiet, closedBy_eq hquiet]

theorem unnotified_eq : (Hub.after (steps ++ [step])).unnotified = (Hub.after steps).unnotified := by
  rw [Hub.after_concat, Hub.unnotified_attempt]
  cases step with
  | store value | close | notify =>
      exact hquiet.elim
  | _ =>
      rfl

end Step.IsQuiet

namespace Hub

/-- The step of another party leaves a listener alone, notifies it, or makes it. -/
theorem state_of_other (hub : Hub α) {listener : Nat} {step : Step α}
    (hother : step.listener? ≠ some listener) :
    let before := hub.state listener
    let moved := (hub.attempt step).1.state listener
    moved = before ∨ (step = .notify ∧ moved = { before with phase := before.phase.notify }) ∨
      (step = .listen ∧ before.phase = .dropped ∧ moved = { before with phase := .idle }) := by
  intro before moved
  have hturn : Turn hub listener step before moved (hub.outcomeFor listener step) :=
    hub.turnAt listener step
  generalize hub.outcomeFor listener step = outcome at hturn
  generalize before = before at hturn ⊢
  generalize moved = moved at hturn ⊢
  cases hturn with
  | stays =>
      exact .inl rfl
  | notified =>
      exact .inr (.inl ⟨rfl, rfl⟩)
  | appears =>
      exact .inr (.inr ⟨rfl, rfl, rfl⟩)
  | enters | registers | findsNothing | finds | wakes | parks | abandons | cancels | drops =>
      exact absurd rfl hother

theorem got_of_other {listener : Nat} {step : Step α} (hother : step.listener? ≠ some listener)
    (steps : List (Step α)) : got listener (steps ++ [step]) = got listener steps := by
  rcases got_step listener steps step with ⟨hsame, -⟩ | ⟨_, rfl, -⟩
  · exact hsame
  · exact absurd rfl hother

/-- What a listener gets after some steps is not older than what had been stored by then. -/
theorem got_append (listener : Nat) (steps later : List (Step α)) :
    ∃ new, got listener (steps ++ later) = got listener steps ++ new ∧
      ∀ item ∈ new, (stored steps).length ≤ item.1 := by
  induction later using List.reverseRecOn with
  | nil =>
      exact ⟨[], by simp, nofun⟩
  | append_singleton later step ih =>
      rcases ih with ⟨new, hgot, hnew⟩
      rw [← List.append_assoc]
      rcases got_step listener (steps ++ later) step with ⟨hsame, -⟩ | ⟨value, -, -, hmore, -⟩
      · exact ⟨new, hsame.trans hgot, hnew⟩
      · refine ⟨new ++ [((stored (steps ++ later)).length, value)], ?_, ?_⟩
        · rw [hmore, hgot, List.append_assoc]
        · intro item hitem
          rcases List.mem_append.mp hitem with hold | hlast
          · exact hnew item hold
          · rw [List.mem_singleton.mp hlast, stored_append, List.length_append]
            exact Nat.le_add_right _ _

/-- A listener that is no more after a step, and has not been dropped by it, was no more before, and
has got nothing. -/
theorem got_of_dropped {listener : Nat} {steps : List (Step α)} {step : Step α}
    (hdrop : step ≠ .drop listener)
    (hdropped : (after (steps ++ [step])).phase listener = .dropped) :
    (after steps).phase listener = .dropped ∧
      got listener (steps ++ [step]) = got listener steps := by
  have hturn := (after steps).turnAt listener step
  unfold TurnAt at hturn
  rw [after_concat, phase_eq] at hdropped
  rw [got_concat, endAt, phase_eq]
  generalize (after steps).state listener = before at hturn ⊢
  generalize ((after steps).attempt step).1.state listener = moved at hturn hdropped
  generalize (after steps).outcomeFor listener step = outcome at hturn ⊢
  cases hturn with
  | stays =>
      exact ⟨hdropped, List.append_nil _⟩
  | notified =>
      refine ⟨?_, List.append_nil _⟩
      rcases before with ⟨seen, phase⟩
      cases phase <;> first | rfl | cases hdropped
  | drops =>
      exact absurd rfl hdrop
  | enters | registers | findsNothing | finds | wakes | parks | abandons | cancels | appears =>
      cases hdropped

end Hub

end EmulatorHost.Broadcast
