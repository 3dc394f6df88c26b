import EmulatorHost.Broadcast.Schedule

/-!
# What a step makes of a listener

One step of the hub, seen from one listener. Most steps leave it as it is; a notification reaches
it; its own steps take it through a wait. `turn` says that there is nothing else, so that what is
to be known about a listener is shown by going through the cases of `Turn`.
-/

namespace EmulatorHost.Broadcast

variable {α : Type}

def Step.listener? : Step α → Option Nat
  | enter listener | register listener | check listener | park listener | abandon listener
  | cancel listener | drop listener => some listener
  | store _ | close | notify | listen => none

inductive Turn (hub : Hub α) (listener : Nat) :
    Step α → Listener → Listener → Option (WaitOutcome α) → Prop where
  -- What a step makes of a listener, and how its wait ends if it does.
  -- The step is not the listener's, or it is not possible.
  | stays {step : Step α} {state : Listener} (hnotify : step = .notify → hub.unnotified = 0)
      (hown : step.listener? = some listener → hub.step step = none) :
      Turn hub listener step state state none
  | notified {state : Listener} :
      Turn hub listener .notify state { state with phase := state.phase.notify } none
  | enters {seen : Nat} : Turn hub listener (.enter listener) ⟨seen, .idle⟩ ⟨seen, .entering⟩ none
  | registers {seen : Nat} :
      Turn hub listener (.register listener) ⟨seen, .entering⟩ ⟨seen, .registered false⟩ none
  | findsNothing {seen : Nat} {notified : Bool} (hpoll : hub.slot.poll seen = none) :
      Turn hub listener (.check listener) ⟨seen, .registered notified⟩ ⟨seen, .checked notified⟩
        none
  | finds {seen : Nat} {notified : Bool} {outcome : WaitOutcome α}
      (hpoll : hub.slot.poll seen = some outcome) :
      Turn hub listener (.check listener) ⟨seen, .registered notified⟩
        ⟨hub.slot.seenAfter seen (some outcome), .idle⟩ (some outcome)
  | wakes {seen : Nat} :
      Turn hub listener (.park listener) ⟨seen, .checked true⟩ ⟨seen, .entering⟩ none
  | parks {seen : Nat} :
      Turn hub listener (.park listener) ⟨seen, .checked false⟩ ⟨seen, .parked⟩ none
  | abandons {state : Listener} :
      Turn hub listener (.abandon listener) state { state with phase := .idle } none
  | cancels {state : Listener} :
      Turn hub listener (.cancel listener) state { state with phase := .idle }
        (some (.error .cancelled))
  | drops {state : Listener} :
      Turn hub listener (.drop listener) state { state with phase := .dropped } none
  | appears : Turn hub listener .listen ⟨0, .dropped⟩ ⟨0, .idle⟩ none

namespace Hub

variable {hub : Hub α} {listener : Nat}

/-! ## Looking a listener up -/

/-- A listener; one that was never made has got nothing and is no more. -/
def state (hub : Hub α) (listener : Nat) : Listener :=
  hub.listeners[listener]?.getD ⟨0, .dropped⟩

theorem phase_eq (hub : Hub α) (listener : Nat) :
    hub.phase listener = (hub.state listener).phase := by
  unfold phase state
  cases hub.listeners[listener]? <;> rfl

theorem seen_eq (hub : Hub α) (listener : Nat) : hub.seen listener = (hub.state listener).seen := by
  unfold seen state
  cases hub.listeners[listener]? <;> rfl

theorem state_modify {mover : Nat} (hthere : hub.phase mover ≠ .dropped)
    (change : Listener → Listener) :
    ({ hub with listeners := hub.listeners.modify mover change } : Hub α).state listener =
      if mover = listener then change (hub.state listener) else hub.state listener := by
  simp only [state, List.getElem?_modify]
  -- A listener that was never made looks like a dropped one, and no change is made to it.
  cases hlookup : hub.listeners[listener]? with
  | some found =>
      by_cases hmover : mover = listener <;> simp [hmover]
  | none =>
      have hmover : mover ≠ listener := by
        rintro rfl
        exact hthere (by simp [phase, hlookup])
      simp [hmover]

/-! ## Taking a step -/

theorem attempt_of_step {step : Step α} {next : Hub α} {outcome : Option (WaitOutcome α)}
    (hstep : hub.step step = some (next, outcome)) : hub.attempt step = (next, outcome) := by
  simp only [attempt, hstep, Option.getD_some]

theorem attempt_of_none {step : Step α} (hstep : hub.step step = none) :
    hub.attempt step = (hub, none) := by
  simp only [attempt, hstep, Option.getD_none]

theorem attempt_notify (howed : hub.unnotified ≠ 0) :
    hub.attempt .notify =
      ({ hub with
        unnotified := hub.unnotified - 1
        listeners := hub.listeners.map fun state => { state with phase := state.phase.notify } },
        none) :=
  attempt_of_step (if_neg howed)

/-! ## The steps of a listener -/

/-- A step of a listener does nothing, or it changes this listener alone, as `Turn` says. -/
theorem step_of_listener (hub : Hub α) {step : Step α} {mover : Nat}
    (hown : step.listener? = some mover) :
    hub.step step = none ∨
      ∃ change outcome, hub.phase mover ≠ .dropped ∧
        hub.step step =
          some ({ hub with listeners := hub.listeners.modify mover change }, outcome) ∧
        Turn hub mover step (hub.state mover) (change (hub.state mover)) outcome := by
  have hphase := hub.phase_eq mover
  have hseen := hub.seen_eq mover
  generalize hub.state mover = state at hphase hseen ⊢
  rcases state with ⟨seen, phase⟩
  dsimp only at hphase hseen
  -- Each step is possible in some phases of the listener, and does nothing in the others.
  cases step with
  | store value | close | notify | listen =>
      cases hown
  | enter mover =>
      cases hown
      cases phase with
      | idle =>
          exact Or.inr ⟨_, _, by simp [hphase], if_pos hphase, .enters⟩
      | _ =>
          exact Or.inl (if_neg (by simp [hphase]))
  | register mover =>
      cases hown
      cases phase with
      | entering =>
          exact Or.inr ⟨_, _, by simp [hphase], if_pos hphase, .registers⟩
      | _ =>
          exact Or.inl (if_neg (by simp [hphase]))
  | check mover =>
      cases hown
      cases phase with
      | registered notified =>
          have hstep : hub.step (.check mover) = some (hub.check mover notified) := by
            simp only [Hub.step, hphase]
          rw [hstep]
          cases hpoll : hub.slot.poll seen with
          | none =>
              have hcheck : hub.check mover notified =
                  (hub.move mover (.checked notified), none) := by
                simp only [Hub.check, hseen, hpoll]
              exact Or.inr ⟨_, _, by simp [hphase], congrArg some hcheck, .findsNothing hpoll⟩
          | some outcome =>
              let ended : Listener := ⟨hub.slot.seenAfter seen (some outcome), .idle⟩
              have hcheck : hub.check mover notified =
                  ({ hub with listeners := hub.listeners.modify mover fun _ => ended },
                    some outcome) := by
                simp only [Hub.check, hseen, hpoll, ended]
              exact Or.inr ⟨_, _, by simp [hphase], congrArg some hcheck, .finds hpoll⟩
      | _ =>
          exact Or.inl (by simp only [Hub.step, hphase])
  | park mover =>
      cases hown
      cases phase with
      | checked notified =>
          cases notified with
          | true =>
              have hstep : hub.step (.park mover) = some (hub.move mover .entering, none) := by
                simp only [Hub.step, hphase]
              exact Or.inr ⟨_, _, by simp [hphase], hstep, .wakes⟩
          | false =>
              have hstep : hub.step (.park mover) = some (hub.move mover .parked, none) := by
                simp only [Hub.step, hphase]
              exact Or.inr ⟨_, _, by simp [hphase], hstep, .parks⟩
      | _ =>
          exact Or.inl (by simp only [Hub.step, hphase])
  | abandon mover =>
      cases hown
      cases phase with
      | idle | dropped =>
          exact Or.inl (by simp only [Hub.step, hphase])
      | _ =>
          have hstep : hub.step (.abandon mover) = some (hub.move mover .idle, none) := by
            simp only [Hub.step, hphase]
          exact Or.inr ⟨_, _, by simp [hphase], hstep, .abandons⟩
  | cancel mover =>
      cases hown
      cases phase with
      | idle | dropped =>
          exact Or.inl (by simp only [Hub.step, hphase])
      | _ =>
          have hstep : hub.step (.cancel mover) =
              some (hub.move mover .idle, some (.error .cancelled)) := by
            simp only [Hub.step, hphase]
          exact Or.inr ⟨_, _, by simp [hphase], hstep, .cancels⟩
  | drop mover =>
      cases hown
      by_cases hdropped : phase = .dropped
      · exact Or.inl (if_pos (hphase.trans hdropped))
      · have hthere : hub.phase mover ≠ .dropped := hphase ▸ hdropped
        exact Or.inr ⟨_, _, hthere, if_neg hthere, .drops⟩

/-! ## One step, seen from one listener -/

def outcomeFor (hub : Hub α) (listener : Nat) (step : Step α) : Option (WaitOutcome α) :=
  if step.listener? = some listener then (hub.attempt step).2 else none

def TurnAt (hub : Hub α) (listener : Nat) (step : Step α) : Prop :=
  Turn hub listener step (hub.state listener) ((hub.attempt step).1.state listener)
    (hub.outcomeFor listener step)

theorem turnAt_of_none {step : Step α} (hnotify : step = .notify → hub.unnotified = 0)
    (hstep : hub.step step = none) : TurnAt hub listener step := by
  unfold TurnAt outcomeFor
  rw [attempt_of_none hstep, ite_self]
  exact .stays hnotify fun _ => hstep

/-- A step of a listener is a turn of this one, and leaves the others as they are. -/
theorem turnAt_of_listener {step : Step α} {mover : Nat} (hmover : step.listener? = some mover) :
    TurnAt hub listener step := by
  have hnotify : step ≠ .notify := by
    rintro rfl
    cases hmover
  rcases hub.step_of_listener hmover with hnone | ⟨change, outcome, hthere, hstep, hturn⟩
  · exact turnAt_of_none (fun h => absurd h hnotify) hnone
  · unfold TurnAt outcomeFor
    rw [attempt_of_step hstep, state_modify hthere, hmover]
    by_cases hown : mover = listener
    · rw [if_pos hown, if_pos (congrArg some hown)]
      exact hown ▸ hturn
    · have hother : ¬ some mover = some listener := fun h => hown (Option.some.inj h)
      rw [if_neg hown, if_neg hother]
      exact .stays (fun h => absurd h hnotify) fun h => absurd (hmover.symm.trans h) hother

theorem turnAt_listen (hub : Hub α) (listener : Nat) : TurnAt hub listener .listen := by
  have hmade : (hub.attempt .listen).1.listeners = hub.listeners ++ [⟨0, .idle⟩] := rfl
  have hstays (hsame : (hub.attempt .listen).1.state listener = hub.state listener) :
      TurnAt hub listener .listen := by
    unfold TurnAt
    rw [hsame]
    exact .stays nofun nofun
  by_cases hthere : listener < hub.listeners.length
  · refine hstays ?_
    rw [state, hmade, List.getElem?_append_left hthere]
    rfl
  · have habsent : hub.listeners[listener]? = none :=
      List.getElem?_eq_none (Nat.le_of_not_lt hthere)
    by_cases hnew : listener = hub.listeners.length
    · have hbefore : hub.state listener = ⟨0, .dropped⟩ := by rw [state, habsent, Option.getD_none]
      have hafter : (hub.attempt .listen).1.state listener = ⟨0, .idle⟩ := by
        rw [state, hmade, hnew, List.getElem?_concat_length, Option.getD_some]
      unfold TurnAt
      rw [hbefore, hafter]
      exact .appears
    · refine hstays ?_
      have hbeyond : (hub.listeners ++ [⟨0, .idle⟩])[listener]? = none := by
        refine List.getElem?_eq_none ?_
        rw [List.length_append, List.length_singleton]
        omega
      rw [state, hmade, hbeyond, state, habsent]

/-- A notification that is owed reaches every listener. -/
theorem state_notify (howed : hub.unnotified ≠ 0) (listener : Nat) :
    (hub.attempt .notify).1.state listener =
      { hub.state listener with phase := (hub.state listener).phase.notify } := by
  rw [attempt_notify howed]
  simp only [state, List.getElem?_map]
  cases hub.listeners[listener]? <;> rfl

/-- What a step makes of a listener. -/
theorem turnAt (hub : Hub α) (listener : Nat) (step : Step α) : TurnAt hub listener step := by
  cases hmover : step.listener? with
  | some mover =>
      exact turnAt_of_listener hmover
  | none =>
      cases step with
      | store value | close =>
          exact .stays nofun nofun
      | notify =>
          by_cases howed : hub.unnotified = 0
          · exact turnAt_of_none (fun _ => howed) (if_pos howed)
          · unfold TurnAt
            rw [state_notify howed]
            exact .notified
      | listen =>
          exact turnAt_listen hub listener
      | _ =>
          cases hmover

/-- A wait ends by a check that finds something, or by being cancelled. -/
theorem end_cases {step : Step α} {outcome : WaitOutcome α}
    (hends : hub.outcomeFor listener step = some outcome) :
    (step = .check listener ∧ hub.slot.poll (hub.seen listener) = some outcome) ∨
      (step = .cancel listener ∧ outcome = .error .cancelled) := by
  have hturn := hub.turnAt listener step
  unfold TurnAt at hturn
  rw [hends] at hturn
  rw [seen_eq]
  generalize hub.state listener = before at hturn
  generalize (hub.attempt step).1.state listener = after at hturn
  cases hturn with
  | finds hpoll =>
      exact Or.inl ⟨rfl, hpoll⟩
  | cancels =>
      exact Or.inr ⟨rfl, rfl⟩

/-- A registered listener finds in a check what there is for it. -/
theorem outcomeFor_check {notified : Bool} (hphase : hub.phase listener = .registered notified) :
    hub.outcomeFor listener (.check listener) = hub.slot.poll (hub.seen listener) := by
  have hown : (Step.check listener : Step α).listener? = some listener := rfl
  have hstep : hub.step (.check listener) = some (hub.check listener notified) := by
    simp only [Hub.step, hphase]
  have hanswer : (hub.check listener notified).2 = hub.slot.poll (hub.seen listener) := by
    cases hpoll : hub.slot.poll (hub.seen listener) with
    | none =>
        simp only [Hub.check, hpoll]
    | some outcome =>
        simp only [Hub.check, hpoll]
  unfold outcomeFor attempt
  rw [if_pos hown, hstep]
  exact hanswer

end Hub

end EmulatorHost.Broadcast
