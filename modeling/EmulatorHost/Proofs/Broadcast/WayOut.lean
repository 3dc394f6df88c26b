import EmulatorHost.Proofs.Broadcast.Wakeup
import Mathlib.Data.List.Basic

/-!
# The way out of a wait

A listener that waits while there is something for it to get needs only a few more steps to get it:
the notification that is on its way if it is asleep, and its own steps up to the next check.
Whatever else happens in between, once these steps have been taken the wait has ended.
-/

namespace EmulatorHost.Broadcast

variable {α : Type}

/-- In a wait. -/
def Phase.IsWaiting (phase : Phase) : Prop :=
  phase ≠ .idle ∧ phase ≠ .dropped

theorem Phase.IsWaiting.notify {phase : Phase} (hwaiting : phase.IsWaiting) :
    phase.notify.IsWaiting := by
  cases phase with
  | idle | dropped =>
      exact hwaiting
  | entering | registered notified | checked notified | parked =>
      exact ⟨nofun, nofun⟩

/-- A step that takes the listener out of a wait without an answer. -/
def Step.Quits (listener : Nat) (step : Step α) : Prop :=
  step = .abandon listener ∨ step = .cancel listener ∨ step = .drop listener

/-- The steps from a phase of a wait to the next check. -/
def wayOut (listener : Nat) : Phase → List (Step α)
  | .idle | .dropped => []
  | .entering => [.register listener, .check listener]
  | .registered _ => [.check listener]
  | .checked true => [.park listener, .register listener, .check listener]
  | .checked false => [.notify, .park listener, .register listener, .check listener]
  | .parked => [.notify, .register listener, .check listener]

namespace Hub

variable {hub : Hub α} {listener : Nat} {step : Step α} {later : List (Step α)}

theorem wayOut_ne_nil {phase : Phase} (hwaiting : phase.IsWaiting) :
    (wayOut listener phase : List (Step α)) ≠ [] := by
  cases phase with
  | idle =>
      exact absurd rfl hwaiting.1
  | dropped =>
      exact absurd rfl hwaiting.2
  | checked notified =>
      cases notified <;> nofun
  | entering | registered notified | parked =>
      nofun

theorem step_wayOut {next : Step α} {rest : List (Step α)}
    (hway : wayOut listener (hub.phase listener) = next :: rest)
    (howed : (hub.phase listener).IsAsleep → hub.unnotified ≠ 0) :
    (next = .notify ∧ hub.unnotified ≠ 0) ∨
      (next.listener? = some listener ∧ hub.step next ≠ none) := by
  cases hphase : hub.phase listener with
  | idle | dropped =>
      rw [hphase] at hway
      cases hway
  | entering =>
      rw [hphase] at hway
      cases hway
      have hstep : hub.step (.register listener) =
          some (hub.move listener (.registered false), none) :=
        if_pos hphase
      exact Or.inr ⟨rfl, by simp [hstep]⟩
  | registered notified =>
      rw [hphase] at hway
      cases hway
      have hstep : hub.step (.check listener) = some (hub.check listener notified) := by
        simp only [Hub.step, hphase]
      exact Or.inr ⟨rfl, by simp [hstep]⟩
  | parked =>
      -- The listener can do nothing itself; the notification has to come.
      rw [hphase] at hway howed
      cases hway
      exact Or.inl ⟨rfl, howed (Or.inl rfl)⟩
  | checked notified =>
      cases notified with
      | true =>
          rw [hphase] at hway
          cases hway
          have hstep : hub.step (.park listener) = some (hub.move listener .entering, none) := by
            simp only [Hub.step, hphase]
          exact Or.inr ⟨rfl, by simp [hstep]⟩
      | false =>
          rw [hphase] at hway howed
          cases hway
          exact Or.inl ⟨rfl, howed (Or.inr rfl)⟩

/-- A step that leaves a waiting listener as it is is not the next one on its way out. -/
theorem wayOut_of_stays
    (howed : (hub.phase listener).IsAsleep → hub.unnotified ≠ 0)
    (hnotify : step = .notify → hub.unnotified = 0)
    (hown : step.listener? = some listener → hub.step step = none)
    (hway : (wayOut listener (hub.phase listener)).Sublist (step :: later)) :
    (wayOut listener (hub.phase listener)).Sublist later := by
  rcases hnext : wayOut listener (hub.phase listener) with _ | ⟨next, rest⟩
  · exact List.nil_sublist _
  · rw [hnext] at hway
    rcases List.cons_sublist_cons'.mp hway with hlater | ⟨rfl, -⟩
    · exact hlater
    · -- The step would have been possible.
      rcases step_wayOut hnext howed with ⟨rfl, hyet⟩ | ⟨hmover, hpossible⟩
      · exact absurd (hnotify rfl) hyet
      · exact absurd (hown hmover) hpossible

theorem wayOut_of_notified {phase : Phase}
    (hway : (wayOut listener phase).Sublist (.notify :: later)) :
    (wayOut listener phase.notify).Sublist later := by
  cases phase with
  | idle | dropped =>
      exact List.nil_sublist _
  | entering | registered notified =>
      exact List.Sublist.of_cons_of_ne (by nofun) hway
  | parked =>
      exact List.cons_sublist_cons.mp hway
  | checked notified =>
      cases notified with
      | true =>
          exact List.Sublist.of_cons_of_ne (by nofun) hway
      | false =>
          exact List.cons_sublist_cons.mp hway

/-- A step that does not end the wait of a listener, nor takes the listener out of it, leaves it on
its way out. -/
theorem wayOut_attempt (hpoll : hub.slot.poll (hub.seen listener) ≠ none)
    (hwaiting : (hub.phase listener).IsWaiting)
    (howed : (hub.phase listener).IsAsleep → hub.unnotified ≠ 0)
    (hgoesOn : hub.outcomeFor listener step = none) (habandon : step ≠ .abandon listener)
    (hdrop : step ≠ .drop listener)
    (hway : (wayOut listener (hub.phase listener)).Sublist (step :: later)) :
    ((hub.attempt step).1.phase listener).IsWaiting ∧
      (hub.attempt step).1.seen listener = hub.seen listener ∧
      (wayOut listener ((hub.attempt step).1.phase listener)).Sublist later := by
  have hstays (hnotify : step = .notify → hub.unnotified = 0)
      (hown : step.listener? = some listener → hub.step step = none) :=
    wayOut_of_stays howed hnotify hown hway
  have hturn := hub.turnAt listener step
  unfold TurnAt at hturn
  rw [hgoesOn] at hturn
  simp only [phase_eq, seen_eq] at *
  generalize hub.state listener = before at *
  generalize (hub.attempt step).1.state listener = after at hturn ⊢
  cases hturn with
  | stays hnotify hown =>
      exact ⟨hwaiting, rfl, hstays hnotify hown⟩
  | notified =>
      exact ⟨hwaiting.notify, rfl, wayOut_of_notified hway⟩
  | registers | wakes =>
      exact ⟨⟨nofun, nofun⟩, rfl, List.cons_sublist_cons.mp hway⟩
  | findsNothing hnothing =>
      exact absurd hnothing hpoll
  | parks =>
      -- The notification comes after the parking, and is on the way still.
      have hrest := List.Sublist.of_cons_of_ne (by nofun) hway
      have hskip : (wayOut listener .parked).Sublist (wayOut (α := α) listener (.checked false)) :=
        (List.sublist_cons_self _ _).cons_cons _
      exact ⟨⟨nofun, nofun⟩, rfl, hskip.trans hrest⟩
  | enters =>
      exact absurd rfl hwaiting.1
  | appears =>
      exact absurd rfl hwaiting.2
  | abandons =>
      exact absurd rfl habandon
  | drops =>
      exact absurd rfl hdrop

/-- A waiting listener for which there is something to get ends its wait by a check, if only the
steps on its way out are taken and nothing takes it out of the wait before. -/
theorem exists_check_of_offer (steps : List (Step α)) (listener : Nat) (later : List (Step α))
    (hoffer : offer steps ((after steps).seen listener) ≠ none)
    (hwaiting : ((after steps).phase listener).IsWaiting)
    (hway : (wayOut listener ((after steps).phase listener)).Sublist later)
    (hquits : ∀ step ∈ later, ¬ step.Quits listener) :
    ∃ before rest outcome, later = before ++ .check listener :: rest ∧
      (after steps).ends listener before = [] ∧
      (after (steps ++ before)).outcomeFor listener (.check listener) = some outcome := by
  -- On the steps to come: one of them ends the wait, or leaves the rest of the way out to go.
  induction later generalizing steps with
  | nil =>
      exact absurd (List.sublist_nil.mp hway) (wayOut_ne_nil hwaiting)
  | cons step later ih =>
      have hstay := hquits step List.mem_cons_self
      cases hends : (after steps).outcomeFor listener step with
      | some outcome =>
          rcases end_cases hends with ⟨rfl, -⟩ | ⟨rfl, -⟩
          · exact ⟨[], later, outcome, rfl, rfl, by rwa [List.append_nil]⟩
          · exact absurd (Or.inr (Or.inl rfl)) hstay
      | none =>
          have hpoll : (after steps).slot.poll ((after steps).seen listener) ≠ none := by
            rwa [poll_after]
          have howed (hasleep : ((after steps).phase listener).IsAsleep) :
              (after steps).unnotified ≠ 0 :=
            Nat.ne_of_gt (unnotified_pos_of_isAsleep hasleep hoffer)
          have habandon : step ≠ .abandon listener := fun h => hstay (Or.inl h)
          have hdrop : step ≠ .drop listener := fun h => hstay (Or.inr (Or.inr h))
          have hon := wayOut_attempt hpoll hwaiting howed hends habandon hdrop hway
          rw [← after_concat] at hon
          rcases hon with ⟨hwaiting, hseen, hway⟩
          have hoffer :
              offer (steps ++ [step]) ((after (steps ++ [step])).seen listener) ≠ none := by
            rw [hseen]
            exact offer_append_ne_none hoffer [step]
          have hquits (other : Step α) (hother : other ∈ later) : ¬ other.Quits listener :=
            hquits other (List.mem_cons_of_mem _ hother)
          rcases ih _ hoffer hwaiting hway hquits with ⟨before, rest, outcome, rfl, hnone, hcheck⟩
          refine ⟨step :: before, rest, outcome, rfl, ?_, ?_⟩
          · rw [ends, endAt, hends, ← after_concat, hnone]
            rfl
          · rw [List.append_assoc] at hcheck
            exact hcheck

end Hub

end EmulatorHost.Broadcast
