import EmulatorHost.Proofs.Broadcast.WayOut

/-!
# What a listener gets

The waits of a listener that are successful return ever later generations, each with the value that
was stored as that generation and that was the last one when the listener checked. The other waits
leave no trace: what there is for the listener to get depends on what has been stored and on what
the listener got last, not on how often it waited in vain.
-/

namespace EmulatorHost.Broadcast

variable {α : Type}

def success? : Nat × WaitOutcome α → Option (Nat × α)
  | (generation, .ok value) => some (generation, value)
  | (_, .error _) => none

/-- What the successful waits of a listener have returned in a run. -/
def got (listener : Nat) (steps : List (Step α)) : List (Nat × α) :=
  (Hub.waits listener steps).filterMap success?

def lastGot (listener : Nat) (steps : List (Step α)) : Nat :=
  match (got listener steps).getLast? with
  | some item => item.1
  | none => 0

def due (listener : Nat) (steps : List (Step α)) : Option (WaitOutcome α) :=
  offer steps (lastGot listener steps)

namespace Hub

theorem got_concat (listener : Nat) (steps : List (Step α)) (step : Step α) :
    got listener (steps ++ [step]) =
      got listener steps ++ (((after steps).endAt listener step).bind success?).toList := by
  unfold got
  rw [waits_concat, List.filterMap_append]
  cases (after steps).endAt listener step with
  | none =>
      rfl
  | some ended =>
      cases hsuccess : success? ended <;> simp [hsuccess]

theorem lastGot_concat (listener : Nat) {steps : List (Step α)} {step : Step α} {item : Nat × α}
    (hgot : got listener (steps ++ [step]) = got listener steps ++ [item]) :
    lastGot listener (steps ++ [step]) = item.1 := by
  unfold lastGot
  rw [hgot, List.getLast?_concat]

/-- A step leaves the listener where it is, or is a check of the listener that finds the last value
stored. -/
theorem got_step (listener : Nat) (steps : List (Step α)) (step : Step α) :
    (got listener (steps ++ [step]) = got listener steps ∧
        (after (steps ++ [step])).seen listener = (after steps).seen listener) ∨
      ∃ value, step = .check listener ∧
        offer steps ((after steps).seen listener) = some (.ok value) ∧
        got listener (steps ++ [step]) = got listener steps ++ [((stored steps).length, value)] ∧
        (after (steps ++ [step])).seen listener = (stored steps).length := by
  have hturn := (after steps).turnAt listener step
  unfold TurnAt at hturn
  rw [got_concat, endAt, after_concat, ← poll_after, ← generation_after]
  simp only [seen_eq]
  -- The listener before and after the step and the outcome are tied by the turn alone.
  generalize (after steps).state listener = before at hturn ⊢
  generalize ((after steps).attempt step).1.state listener = moved at hturn ⊢
  generalize (after steps).outcomeFor listener step = outcome at hturn ⊢
  cases hturn with
  | finds hpoll =>
      rename_i seen notified outcome
      cases outcome with
      | ok value =>
          exact Or.inr ⟨value, rfl, hpoll, rfl, rfl⟩
      | error reason =>
          exact Or.inl ⟨List.append_nil _, rfl⟩
  | stays | notified | enters | registers | findsNothing | wakes | parks | abandons | cancels
  | drops | appears =>
      exact Or.inl ⟨List.append_nil _, rfl⟩

/-! ## In step with what was stored -/

structure InStep (listener : Nat) (steps : List (Step α)) : Prop where
  increasing : (got listener steps).Pairwise fun earlier later => earlier.1 < later.1
  bounded : ∀ item ∈ got listener steps, item.1 ≤ (after steps).seen listener
  fromStored : ∀ item ∈ got listener steps, storedAs steps item.1 = some item.2
  seen_eq : (after steps).seen listener = lastGot listener steps

variable {listener : Nat} {steps : List (Step α)}

theorem InStep.keep (h : InStep listener steps) {step : Step α}
    (hgot : got listener (steps ++ [step]) = got listener steps)
    (hseen : (after (steps ++ [step])).seen listener = (after steps).seen listener) :
    InStep listener (steps ++ [step]) where
  increasing := by
    rw [hgot]
    exact h.increasing
  bounded := by
    rw [hgot, hseen]
    exact h.bounded
  fromStored := by
    rw [hgot]
    intro item hitem
    exact storedAs_append (h.fromStored item hitem) [step]
  seen_eq := by
    unfold lastGot
    rw [hseen, hgot]
    exact h.seen_eq

theorem InStep.get (h : InStep listener steps) {step : Step α} {value : α}
    (hoffer : offer steps ((after steps).seen listener) = some (.ok value))
    (hgot : got listener (steps ++ [step]) =
      got listener steps ++ [((stored steps).length, value)])
    (hseen : (after (steps ++ [step])).seen listener = (stored steps).length) :
    InStep listener (steps ++ [step]) := by
  rcases offer_eq_ok_iff.mp hoffer with ⟨-, hnew, hlast⟩
  -- All that was got before is of an older generation than the one on offer.
  have hbelow (item : Nat × α) (hitem : item ∈ got listener steps) :
      item.1 < (stored steps).length :=
    Nat.lt_of_le_of_lt (h.bounded item hitem) hnew
  refine ⟨?_, ?_, ?_, ?_⟩
  · rw [hgot, List.pairwise_append]
    refine ⟨h.increasing, List.pairwise_singleton _ _, ?_⟩
    intro earlier hearlier later hlater
    rw [List.mem_singleton.mp hlater]
    exact hbelow earlier hearlier
  · rw [hgot, hseen]
    intro item hitem
    rcases List.mem_append.mp hitem with hold | hnewest
    · exact Nat.le_of_lt (hbelow item hold)
    · exact Nat.le_of_eq (congrArg Prod.fst (List.mem_singleton.mp hnewest))
  · rw [hgot]
    intro item hitem
    refine storedAs_append ?_ [step]
    rcases List.mem_append.mp hitem with hold | hnewest
    · exact h.fromStored item hold
    · rw [List.mem_singleton.mp hnewest]
      exact (storedAs_length steps).trans hlast
  · rw [hseen, lastGot_concat listener hgot]

theorem inStep (listener : Nat) (steps : List (Step α)) : InStep listener steps := by
  induction steps using List.reverseRecOn with
  | nil =>
      exact ⟨List.Pairwise.nil, nofun, nofun, rfl⟩
  | append_singleton steps step ih =>
      rcases got_step listener steps step with ⟨hgot, hseen⟩ | ⟨value, -, hoffer, hgot, hseen⟩
      · exact ih.keep hgot hseen
      · exact ih.get hoffer hgot hseen

theorem offer_seen (listener : Nat) (steps : List (Step α)) :
    offer steps ((after steps).seen listener) = due listener steps := by
  unfold due
  rw [(inStep listener steps).seen_eq]

/-! ## Waits in every run -/

/-- What holds of the waits of a listener after every run, and however the run goes on. -/
structure KeepsUp (listener : Nat) (steps : List (Step α)) : Prop where
  -- Successful waits return ever later generations.
  increasing : (got listener steps).Pairwise fun earlier later => earlier.1 < later.1
  -- The value is the one that was stored as that generation.
  fromStored : ∀ item ∈ got listener steps, storedAs steps item.1 = some item.2
  -- A wait is successful by a check, and the value is then the last one stored.
  advances : ∀ step, got listener (steps ++ [step]) = got listener steps ∨
    ∃ value, step = .check listener ∧ (stored steps).getLast? = some value ∧
      got listener (steps ++ [step]) = got listener steps ++ [((stored steps).length, value)]
  -- Only successful waits take the listener further.
  seen_eq : (after steps).seen listener = lastGot listener steps
  -- A check finds what there is for one that got that far, whatever waits came to nothing.
  checked : ∀ notified, (after steps).phase listener = .registered notified →
    (after steps).outcomeFor listener (.check listener) = due listener steps
  -- A wait for which there is something, and which is not given up, ends with what there is.
  returns : ∀ later, due listener steps ≠ none → ((after steps).phase listener).IsWaiting →
    (wayOut listener ((after steps).phase listener)).Sublist later →
    (∀ step ∈ later, ¬ step.Quits listener) →
    ∃ before rest outcome, later = before ++ .check listener :: rest ∧
      (after steps).ends listener before = [] ∧
      (after (steps ++ before)).outcomeFor listener (.check listener) = some outcome ∧
      due listener (steps ++ before) = some outcome
  -- From the closing on there is no value to get, and waits fail unless they are cancelled.
  closed : closedBy steps = true → ∀ later,
    due listener (steps ++ later) = some (.error .closed) ∧
      ∀ step outcome, (after (steps ++ later)).outcomeFor listener step = some outcome →
        outcome = .error .closed ∨ (step = .cancel listener ∧ outcome = .error .cancelled)

/-- In every run of a broadcaster, with any number of listeners made at any time, every listener
keeps up with what is stored. -/
theorem waits_keep_up (listener : Nat) (steps : List (Step α)) : KeepsUp listener steps where
  increasing := (inStep listener steps).increasing
  fromStored := (inStep listener steps).fromStored
  advances := by
    intro step
    rcases got_step listener steps step with ⟨hgot, -⟩ | ⟨value, hcheck, hoffer, hgot, -⟩
    · exact Or.inl hgot
    · exact Or.inr ⟨value, hcheck, (offer_eq_ok_iff.mp hoffer).2.2, hgot⟩
  seen_eq := (inStep listener steps).seen_eq
  checked := by
    intro notified hphase
    rw [outcomeFor_check hphase, poll_after, offer_seen]
  returns := by
    intro later hdue hwaiting hway hquits
    rw [← offer_seen] at hdue
    rcases exists_check_of_offer steps listener later hdue hwaiting hway hquits with
      ⟨before, rest, outcome, hlater, hnone, hends⟩
    refine ⟨before, rest, outcome, hlater, hnone, hends, ?_⟩
    rcases end_cases hends with ⟨-, hpoll⟩ | ⟨hcancel, -⟩
    · rwa [poll_after, offer_seen] at hpoll
    · cases hcancel
  closed := by
    intro hclosed later
    have hstays : closedBy (steps ++ later) = true := by
      rw [closedBy_append, hclosed, Bool.true_or]
    refine ⟨offer_of_closed hstays _, ?_⟩
    intro step outcome hends
    rcases end_cases hends with ⟨-, hpoll⟩ | hcancel
    · rw [poll_after, offer_of_closed hstays] at hpoll
      exact Or.inl (Option.some.inj hpoll).symm
    · exact Or.inr hcancel

/-- A listener misses one value, is cancelled while the next is there, gets it, and is parked when
the broadcaster is closed. -/
def closingRun : List (Step Nat) :=
  [.listen, .store 10, .notify, .store 20, .notify, .enter 0, .cancel 0, .enter 0, .register 0,
    .check 0, .enter 0, .register 0, .check 0, .park 0, .close]

theorem waits_keep_up_closingRun :
    got 0 closingRun = [(2, 20)] ∧ closedBy closingRun = true ∧
      (after closingRun).phase 0 = .parked ∧
      ∃ before rest outcome,
        [.notify, .register 0, .store 30, .check 0] = before ++ .check 0 :: rest ∧
        (after closingRun).ends 0 before = [] ∧
        (after (closingRun ++ before)).outcomeFor 0 (.check 0) = some outcome ∧
        due 0 (closingRun ++ before) = some outcome := by
  have hgot : got 0 closingRun = [(2, 20)] := by decide
  have hclosed : closedBy closingRun = true := by decide
  have hparked : (after closingRun).phase 0 = .parked := by decide
  have hdue : due 0 closingRun ≠ none := by
    have hanswer : due 0 closingRun = some (.error .closed) := offer_of_closed hclosed _
    simp [hanswer]
  have hwaiting : ((after closingRun).phase 0).IsWaiting := by
    rw [hparked]
    exact ⟨nofun, nofun⟩
  have hway : (wayOut 0 ((after closingRun).phase 0)).Sublist
      [.notify, .register 0, .store 30, .check 0] := by
    rw [hparked]
    exact .cons_cons _ (.cons_cons _ (.cons _ (.cons_cons _ .slnil)))
  have hquits : ∀ step ∈ [.notify, .register 0, .store 30, .check 0],
      ¬ (step : Step Nat).Quits 0 := by
    simp [Step.Quits]
  exact ⟨hgot, hclosed, hparked,
    (waits_keep_up 0 closingRun).returns _ hdue hwaiting hway hquits⟩

end Hub

end EmulatorHost.Broadcast
