import EmulatorHost.Proofs.Broadcast.Quiet

/-!
# Listeners that wait over and over

A listener that waits over and over, and never gives up a wait, has at most one step to take at a
time (`Hub.onward?`), and is stuck only while it is parked. It gets nothing from before it was made,
and while it is parked and no caller is yet to notify, it has got the value that is held.
-/

namespace EmulatorHost.Broadcast

variable {α : Type}

namespace Hub

def onward? (hub : Hub α) (listener : Nat) : Option (Step α) :=
  match hub.phase listener with
  | .idle => some (.enter listener)
  | .entering => some (.register listener)
  | .registered _ => some (.check listener)
  | .checked _ => some (.park listener)
  | .parked | .dropped => none

variable {hub : Hub α} {listener : Nat} {step : Step α} {steps : List (Step α)}

theorem parked_of_onward?_eq_none (hthere : hub.phase listener ≠ .dropped)
    (hnone : hub.onward? listener = none) : hub.phase listener = .parked := by
  unfold onward? at hnone
  split at hnone
  · cases hnone
  · cases hnone
  · cases hnone
  · cases hnone
  · assumption
  · exact absurd ‹_› hthere

/-- The next step of a listener's waits is its own, it is possible, and it does not take it out of a
wait without an answer. -/
theorem onward?_cases (hnext : hub.onward? listener = some step) :
    step.listener? = some listener ∧ hub.step step ≠ none ∧ ¬ step.Quits listener := by
  unfold onward? at hnext
  cases hphase : hub.phase listener with
  | idle | entering | registered notified =>
      rw [hphase] at hnext
      cases hnext
      simp [Step.listener?, Hub.step, hphase, Step.Quits]
  | checked notified =>
      rw [hphase] at hnext
      cases hnext
      cases notified <;> simp [Step.listener?, Hub.step, hphase, Step.Quits]
  | parked | dropped =>
      rw [hphase] at hnext
      cases hnext

inductive Progress (slot : Broadcaster α) :
    Listener → Listener → Option (WaitOutcome α) → Prop where
  -- What the next step of a listener's waits makes of it, and how the wait ends if it does.
  | enters (seen : Nat) : Progress slot ⟨seen, .idle⟩ ⟨seen, .entering⟩ none
  | registers (seen : Nat) : Progress slot ⟨seen, .entering⟩ ⟨seen, .registered false⟩ none
  | findsNothing (seen : Nat) (notified : Bool) (hpoll : slot.poll seen = none) :
      Progress slot ⟨seen, .registered notified⟩ ⟨seen, .checked notified⟩ none
  | finds (seen : Nat) (notified : Bool) (outcome : WaitOutcome α)
      (hpoll : slot.poll seen = some outcome) :
      Progress slot ⟨seen, .registered notified⟩ ⟨slot.seenAfter seen (some outcome), .idle⟩
        (some outcome)
  | wakes (seen : Nat) : Progress slot ⟨seen, .checked true⟩ ⟨seen, .entering⟩ none
  | parks (seen : Nat) : Progress slot ⟨seen, .checked false⟩ ⟨seen, .parked⟩ none

theorem progress_of_onward? (hnext : hub.onward? listener = some step) :
    Progress hub.slot (hub.state listener) ((hub.attempt step).1.state listener)
      (hub.outcomeFor listener step) := by
  rcases onward?_cases hnext with ⟨hown, hpossible, hstays⟩
  have hturn := hub.turnAt listener step
  unfold TurnAt at hturn
  generalize hub.state listener = before at hturn ⊢
  generalize (hub.attempt step).1.state listener = moved at hturn ⊢
  generalize hub.outcomeFor listener step = outcome at hturn ⊢
  -- Of all the turns that a listener can take, these are left to a step that is possible, is its
  -- own and does not take it out of its wait.
  cases hturn with
  | stays _ himpossible =>
      exact absurd (himpossible hown) hpossible
  | notified | appears =>
      cases hown
  | abandons =>
      exact absurd (.inl rfl) hstays
  | cancels =>
      exact absurd (.inr (.inl rfl)) hstays
  | drops =>
      exact absurd (.inr (.inr rfl)) hstays
  | enters =>
      exact .enters _
  | registers =>
      exact .registers _
  | findsNothing hpoll =>
      exact .findsNothing _ _ hpoll
  | finds hpoll =>
      exact .finds _ _ _ hpoll
  | wakes =>
      exact .wakes _
  | parks =>
      exact .parks _

theorem closedBy_of_poll_error {seen : Nat} {reason : WaitError}
    (hpoll : (after steps).slot.poll seen = some (.error reason)) : closedBy steps = true := by
  by_contra hopen
  rw [poll_after, offer, if_neg hopen] at hpoll
  split_ifs at hpoll
  cases hlast : (stored steps).getLast? <;> simp [hlast] at hpoll

theorem seen_of_endAt {ended : Nat × WaitOutcome α}
    (hends : (after steps).endAt listener step = some ended) :
    (after (steps ++ [step])).seen listener = ended.1 := by
  rcases Option.map_eq_some_iff.mp hends with ⟨outcome, -, rfl⟩
  rw [after_concat]

/-- A listener that has got its answer is in no wait, and it is refused one only by a closing. -/
theorem end_of_onward? (hnext : (after steps).onward? listener = some step)
    {ended : Nat × WaitOutcome α} (hends : (after steps).endAt listener step = some ended) :
    (after (steps ++ [step])).phase listener = .idle ∧
      ∀ reason, ended.2 = .error reason → closedBy steps = true := by
  have hprogress := progress_of_onward? hnext
  rcases Option.map_eq_some_iff.mp hends with ⟨outcome, houtcome, rfl⟩
  rw [houtcome] at hprogress
  rw [phase_eq, after_concat]
  generalize (after steps).state listener = before at hprogress
  generalize ((after steps).attempt step).1.state listener = moved at hprogress ⊢
  cases hprogress with
  | finds seen notified outcome hpoll =>
      refine ⟨rfl, ?_⟩
      intro reason hreason
      have hrefused : outcome = .error reason := hreason
      rw [hrefused] at hpoll
      exact closedBy_of_poll_error hpoll

/-- A step by which a listener gets nothing takes it no further. -/
theorem seen_of_got_eq (hsame : got listener (steps ++ [step]) = got listener steps) :
    (after (steps ++ [step])).seen listener = (after steps).seen listener := by
  rcases got_step listener steps step with ⟨-, hseen⟩ | ⟨value, -, -, hmore, -⟩
  · exact hseen
  · rw [hsame] at hmore
    simp at hmore

/-! ## A listener that is made -/

/-- A listener that is made stands where none has been, and in no wait. -/
theorem state_of_made (steps : List (Step α)) :
    (after (steps ++ [.listen])).state (after steps).listeners.length = ⟨0, .idle⟩ := by
  have hmade : (after (steps ++ [.listen])).listeners =
      (after steps).listeners ++ [⟨0, .idle⟩] := by
    rw [after_concat]
    rfl
  rw [state, hmade, List.getElem?_concat_length, Option.getD_some]

/-- As generations are counted from 1 on, a listener that has got as far as 0 has got nothing. -/
theorem got_of_seen_zero (hseen : (after steps).seen listener = 0) : got listener steps = [] := by
  have hinStep := inStep listener steps
  apply List.eq_nil_iff_forall_not_mem.mpr
  intro item hitem
  have hzero : item.1 = 0 := Nat.le_zero.mp (hseen ▸ hinStep.bounded item hitem)
  have hstored := hinStep.fromStored item hitem
  rw [hzero] at hstored
  cases hstored

/-- A listener gets nothing that was replaced before it was made. -/
theorem generation_le_of_mem_got {later : List (Step α)} {item : Nat × α}
    (hitem : item ∈ got (after steps).listeners.length (steps ++ .listen :: later)) :
    (after steps).slot.generation ≤ item.1 := by
  have hsplit : steps ++ .listen :: later = steps ++ [.listen] ++ later := by simp
  have hmade : got (after steps).listeners.length (steps ++ [.listen]) = [] := by
    apply got_of_seen_zero
    rw [seen_eq, state_of_made]
  rcases got_append (after steps).listeners.length (steps ++ [.listen]) later with ⟨new, hgot, hnew⟩
  rw [hmade, List.nil_append] at hgot
  rw [hsplit, hgot] at hitem
  have hless := hnew item hitem
  rw [stored_append] at hless
  rw [generation_after]
  exact Nat.le_trans (by simp) hless

/-! ## A listener that is parked -/

/-- A listener that is parked while no caller is yet to notify has got the value that is held. -/
theorem getLast?_got_of_parked (hnotified : (after steps).unnotified = 0)
    (hparked : (after steps).phase listener = .parked) :
    (got listener steps).getLast? =
      (after steps).slot.value.map fun value => ((after steps).slot.generation, value) := by
  have hinStep := inStep listener steps
  have hcaughtUp := (no_wakeup_lost steps hnotified listener hparked).1
  rw [hinStep.seen_eq, generation_after] at hcaughtUp
  unfold lastGot at hcaughtUp
  rw [slot_after]
  cases hgot : (got listener steps).getLast? with
  | none =>
      rw [hgot] at hcaughtUp
      have hnothing : stored steps = [] := List.length_eq_zero_iff.mp (Nat.le_zero.mp hcaughtUp)
      rw [hnothing]
      rfl
  | some item =>
      rw [hgot] at hcaughtUp
      rcases item with ⟨generation, value⟩
      have hitem := hinStep.fromStored _ (List.mem_of_getLast? hgot)
      -- The generation is there, so it is not beyond the last one.
      have hsame : generation = (stored steps).length := by
        cases generation with
        | zero =>
            cases hitem
        | succ before =>
            have hlt := (List.getElem?_eq_some_iff.mp hitem).1
            exact Nat.le_antisymm hlt hcaughtUp
      dsimp only at hitem
      rw [hsame, storedAs_length] at hitem
      rw [hitem, hsame]
      rfl

end Hub

end EmulatorHost.Broadcast
