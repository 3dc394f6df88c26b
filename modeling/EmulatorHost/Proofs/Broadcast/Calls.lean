import EmulatorHost.Proofs.Broadcast.Wakeup

/-!
# Calls

The calls of the public interface are runs of atomic steps, so what holds after every run holds
between calls. A call that stores or closes has notified when it returns. Between calls nobody is
yet to notify, therefore, and a listener that is parked there has got all there is.
-/

namespace EmulatorHost.Broadcast

variable {α : Type}

inductive Call (α : Type) where
  | broadcast (value : α)
  | close
  | listen
  | wait (listener : Nat)
  | waitBriefly (listener : Nat)
  | waitCancelled (listener : Nat)
  | drop (listener : Nat)
deriving Repr

/-- A step that has nothing to do with the slot. -/
def Step.IsPrivate (step : Step α) : Prop :=
  ∀ slot unnotified, step.share slot unnotified = (slot, unnotified)

theorem Step.isPrivate_of_listener {step : Step α} {mover : Nat}
    (hown : step.listener? = some mover) : step.IsPrivate :=
  step.share_of_listener hown

namespace Hub

def call (hub : Hub α) : Call α → Hub α
  | .broadcast value => (hub.broadcast value).1
  | .close => hub.close.1
  | .listen => hub.listen.1
  | .wait listener => (hub.wait listener).1
  | .waitBriefly listener => (hub.waitBriefly listener).1
  | .waitCancelled listener => (hub.waitCancelled listener).1
  | .drop listener => hub.drop listener

/-- A run of atomic steps leads there, and nobody is yet to notify. -/
structure Calm (hub : Hub α) : Prop where
  reached : ∃ steps, after steps = hub
  notified : hub.unnotified = 0

variable {hub : Hub α}

theorem reached_attempt (hreached : ∃ steps, after steps = hub) (step : Step α) :
    ∃ steps, after steps = (hub.attempt step).1 := by
  rcases hreached with ⟨steps, rfl⟩
  exact ⟨steps ++ [step], after_concat steps step⟩

namespace Calm

theorem attempt (h : hub.Calm) {step : Step α} (hprivate : step.IsPrivate) :
    (hub.attempt step).1.Calm where
  reached := reached_attempt h.reached step
  notified := by
    rw [unnotified_attempt, hprivate]
    exact h.notified

theorem attemptAll (h : hub.Calm) {steps : List (Step α)}
    (hprivate : ∀ step ∈ steps, step.IsPrivate) : (hub.attemptAll steps).1.Calm := by
  induction steps generalizing hub with
  | nil =>
      exact h
  | cons step rest ih =>
      rw [List.forall_mem_cons] at hprivate
      have hnext := h.attempt hprivate.1
      unfold Hub.attemptAll
      rcases hattempt : hub.attempt step with ⟨next, _ | outcome⟩
      · rw [hattempt] at hnext
        exact ih hnext hprivate.2
      · rw [hattempt] at hnext
        exact hnext

theorem publish (h : hub.Calm) {step : Step α} {slot : Broadcaster α}
    (hstep : hub.step step = some ({ hub with slot, unnotified := hub.unnotified + 1 }, none)) :
    (hub.attemptAll [step, .notify]).1.Calm := by
  let stored : Hub α := { hub with slot, unnotified := hub.unnotified + 1 }
  have hfirst : hub.attempt step = (stored, none) := attempt_of_step hstep
  have howed : stored.unnotified ≠ 0 := Nat.succ_ne_zero _
  have hreached := reached_attempt (reached_attempt h.reached step) .notify
  -- The notification is the one that is owed for the storing.
  simp only [Hub.attemptAll, hfirst, attempt_notify howed] at hreached ⊢
  exact ⟨hreached, h.notified⟩

theorem round (h : hub.Calm) (listener : Nat) : (hub.round listener).1.Calm := by
  refine h.attemptAll ?_
  simp only [List.forall_mem_cons]
  exact ⟨Step.isPrivate_of_listener rfl, Step.isPrivate_of_listener rfl,
    Step.isPrivate_of_listener rfl, nofun⟩

theorem resumeFrom (h : hub.Calm) (listener count : Nat) :
    (hub.resumeFrom listener count).1.Calm := by
  induction count generalizing hub listener with
  | zero =>
      exact h
  | succ count ih =>
      have hround := ih (h.round listener) (listener + 1)
      unfold Hub.resumeFrom
      split
      · dsimp only
        split
        · exact hround
        · exact hround
      · exact ih h (listener + 1)

theorem wait (h : hub.Calm) (listener : Nat) : (hub.wait listener).1.Calm := by
  have henter : (Step.enter listener : Step α).IsPrivate := Step.isPrivate_of_listener rfl
  exact (h.attempt henter).round listener

theorem waitBriefly (h : hub.Calm) (listener : Nat) : (hub.waitBriefly listener).1.Calm := by
  have hwait := h.wait listener
  have habandon : (Step.abandon listener : Step α).IsPrivate := Step.isPrivate_of_listener rfl
  unfold Hub.waitBriefly
  generalize hub.wait listener = answer at hwait ⊢
  rcases answer with ⟨next, _ | outcome⟩
  · exact hwait.attempt habandon
  · exact hwait

theorem call (h : hub.Calm) (call : Call α) : (hub.call call).Calm := by
  cases call with
  | broadcast value | close =>
      exact (h.publish rfl).resumeFrom 0 _
  | listen =>
      have hlisten : (Step.listen : Step α).IsPrivate := fun _ _ => rfl
      exact h.attempt hlisten
  | wait listener =>
      exact h.wait listener
  | waitBriefly listener =>
      exact h.waitBriefly listener
  | waitCancelled listener =>
      refine h.attemptAll ?_
      simp only [List.forall_mem_cons]
      exact ⟨Step.isPrivate_of_listener rfl, Step.isPrivate_of_listener rfl, nofun⟩
  | drop listener =>
      have hdrop : (Step.drop listener : Step α).IsPrivate := Step.isPrivate_of_listener rfl
      exact h.attempt hdrop

end Calm

def afterCalls (calls : List (Call α)) : Hub α :=
  calls.foldl call init

theorem calm_afterCalls (calls : List (Call α)) : (afterCalls calls).Calm := by
  have hinit : (init : Hub α).Calm := ⟨⟨[], rfl⟩, rfl⟩
  unfold afterCalls
  -- On the calls, from any calm hub.
  generalize init = hub at hinit ⊢
  induction calls generalizing hub with
  | nil =>
      exact hinit
  | cons call rest ih =>
      exact ih _ (hinit.call call)

/-- Between calls no listener is parked that has something to get. -/
theorem caughtUp_of_parked (calls : List (Call α)) {listener : Nat}
    (hparked : (afterCalls calls).phase listener = .parked) :
    (afterCalls calls).slot.generation ≤ (afterCalls calls).seen listener ∧
      (afterCalls calls).slot.isClosed = false := by
  rcases calm_afterCalls calls with ⟨⟨steps, hreached⟩, hnotified⟩
  rw [← hreached] at hparked hnotified ⊢
  exact caughtUp_of_isAsleep hnotified (Or.inl hparked)

end Hub

end EmulatorHost.Broadcast
