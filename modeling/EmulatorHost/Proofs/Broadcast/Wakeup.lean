import EmulatorHost.Proofs.Broadcast.History

/-!
# No wake-up is lost

Storing and notifying are two steps, and so are registering, checking and parking, and anything may
come between them. What makes up for it is their order. A listener that checks has registered
before, so a notification after the check reaches it; a caller that notifies has stored before, so a
listener that it reaches finds what was stored. The invariant therefore speaks of a listener that
is parked or will park next, and of the times when no notification is under way.
-/

namespace EmulatorHost.Broadcast

variable {α : Type}

/-- Parked, or about to park: a notification is the only thing that brings the listener back to the
slot. -/
def Phase.IsAsleep (phase : Phase) : Prop :=
  phase = .parked ∨ phase = .checked false

theorem Phase.not_isAsleep_notify (phase : Phase) : ¬ phase.notify.IsAsleep := by
  intro hasleep
  cases phase <;> rcases hasleep with hphase | hphase <;> cases hphase

namespace Hub

/-- While no caller is yet to notify, a listener that is asleep has nothing to get. -/
def SleepsSoundly (hub : Hub α) (listener : Nat) : Prop :=
  hub.unnotified = 0 → (hub.state listener).phase.IsAsleep →
    hub.slot.poll (hub.state listener).seen = none

/-- A step after which no caller is yet to notify, and which is no notification itself, has left the
slot as it was. -/
theorem slot_of_notified {hub : Hub α} {step : Step α}
    (hnotified : (hub.attempt step).1.unnotified = 0)
    (hnotify : step = .notify → hub.unnotified = 0) :
    hub.unnotified = 0 ∧ (hub.attempt step).1.slot = hub.slot := by
  have hslot := hub.slot_attempt step
  rw [unnotified_attempt] at hnotified
  cases step with
  | store value | close =>
      exact absurd hnotified (Nat.succ_ne_zero _)
  | notify =>
      exact ⟨hnotify rfl, hslot⟩
  | _ =>
      exact ⟨hnotified, hslot⟩

theorem sleepsSoundly_attempt {hub : Hub α} {listener : Nat} (hbefore : hub.SleepsSoundly listener)
    (step : Step α) : (hub.attempt step).1.SleepsSoundly listener := by
  intro hnotified hasleep
  have hturn := hub.turnAt listener step
  unfold TurnAt at hturn
  unfold SleepsSoundly at hbefore
  generalize hub.state listener = before at hturn hbefore
  generalize (hub.attempt step).1.state listener = after at hturn hasleep ⊢
  generalize hub.outcomeFor listener step = outcome at hturn
  cases hturn with
  | stays hnotify hown =>
      -- Whoever had stored something would be yet to notify.
      have hquiet := slot_of_notified hnotified hnotify
      rw [hquiet.2]
      exact hbefore hquiet.1 hasleep
  | notified =>
      exact absurd hasleep (Phase.not_isAsleep_notify _)
  | findsNothing hpoll =>
      -- The check itself has shown that there is nothing.
      have hquiet := slot_of_notified hnotified nofun
      rw [hquiet.2]
      exact hpoll
  | parks =>
      have hquiet := slot_of_notified hnotified nofun
      rw [hquiet.2]
      exact hbefore hquiet.1 (Or.inr rfl)
  | enters | registers | finds | wakes | abandons | cancels | drops | appears =>
      rcases hasleep with hphase | hphase <;> cases hphase

theorem sleepsSoundly_after (steps : List (Step α)) (listener : Nat) :
    (after steps).SleepsSoundly listener := by
  induction steps using List.reverseRecOn with
  | nil =>
      intro _ hasleep
      rcases hasleep with hphase | hphase <;> cases hphase
  | append_singleton steps step ih =>
      rw [after_concat]
      exact sleepsSoundly_attempt ih step

/-- A listener that is asleep while there is something for it to get is about to be notified. -/
theorem unnotified_pos_of_isAsleep {steps : List (Step α)} {listener : Nat}
    (hasleep : ((after steps).phase listener).IsAsleep)
    (hoffer : offer steps ((after steps).seen listener) ≠ none) : 0 < (after steps).unnotified := by
  refine Nat.pos_of_ne_zero fun hnotified => ?_
  have hsound := sleepsSoundly_after steps listener hnotified
  rw [← phase_eq, ← seen_eq, poll_after] at hsound
  exact hoffer (hsound hasleep)

/-- While no caller is yet to notify, a listener that is asleep has got the last generation, and the
broadcaster is open. -/
theorem caughtUp_of_isAsleep {steps : List (Step α)} {listener : Nat}
    (hnotified : (after steps).unnotified = 0)
    (hasleep : ((after steps).phase listener).IsAsleep) :
    (after steps).slot.generation ≤ (after steps).seen listener ∧
      (after steps).slot.isClosed = false := by
  by_cases hoffer : offer steps ((after steps).seen listener) = none
  · rcases offer_eq_none_iff.mp hoffer with ⟨hopen, hlength⟩
    rw [generation_after, isClosed_after]
    exact ⟨hlength, hopen⟩
  · have hyet := unnotified_pos_of_isAsleep hasleep hoffer
    omega

/-- When every caller that has stored or closed has notified, no parked listener has a generation to
get, and none is parked on a closed broadcaster. -/
theorem no_wakeup_lost (steps : List (Step α)) (hnotified : (after steps).unnotified = 0)
    (listener : Nat) (hparked : (after steps).phase listener = .parked) :
    (after steps).slot.generation ≤ (after steps).seen listener ∧
      (after steps).slot.isClosed = false :=
  caughtUp_of_isAsleep hnotified (Or.inl hparked)

/-- A value comes between the check and the parking; the listener gets it, and waits once more. -/
def racingWait : List (Step Nat) :=
  [.listen, .enter 0, .register 0, .check 0, .store 7, .notify, .park 0, .register 0, .check 0,
    .enter 0, .register 0, .check 0, .park 0]

theorem no_wakeup_lost_racingWait :
    (after racingWait).unnotified = 0 ∧ (after racingWait).phase 0 = .parked ∧
      (after racingWait).slot.generation ≤ (after racingWait).seen 0 ∧
      (after racingWait).slot.isClosed = false := by
  have hnotified : (after racingWait).unnotified = 0 := by decide
  have hparked : (after racingWait).phase 0 = .parked := by decide
  exact ⟨hnotified, hparked, no_wakeup_lost racingWait hnotified 0 hparked⟩

end Hub

end EmulatorHost.Broadcast
