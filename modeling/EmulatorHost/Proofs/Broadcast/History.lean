import EmulatorHost.Proofs.Broadcast.Turn
import Mathlib.Data.List.Induction

/-!
# Histories of a hub

A run from the beginning is a list of attempted steps that grows at its end. `Hub.after` is where it
leads, `stored` and `closedBy` are what the callers have done in it, and `Hub.waits` is what a
listener has got from its waits. The slot is a function of what the callers have done.
-/

namespace EmulatorHost.Broadcast

variable {α : Type}

/-! ## What the callers do -/

def Step.stored? : Step α → Option α
  | store value => some value
  | _ => none

def Step.isClose : Step α → Bool
  | close => true
  | _ => false

def stored (steps : List (Step α)) : List α :=
  steps.filterMap Step.stored?

/-- The value stored as a generation, which are counted from 1 on. -/
def storedAs (steps : List (Step α)) : Nat → Option α
  | 0 => none
  | generation + 1 => (stored steps)[generation]?

def closedBy (steps : List (Step α)) : Bool :=
  steps.any Step.isClose

/-- What a step makes of the slot and of the number of callers that are yet to notify. -/
def Step.share (slot : Broadcaster α) (unnotified : Nat) : Step α → Broadcaster α × Nat
  | store value => (slot.broadcast value, unnotified + 1)
  | close => (slot.close, unnotified + 1)
  | notify => (slot, unnotified - 1)
  | _ => (slot, unnotified)

theorem stored_append (steps rest : List (Step α)) :
    stored (steps ++ rest) = stored steps ++ stored rest :=
  List.filterMap_append

theorem storedAs_append {steps : List (Step α)} {generation : Nat} {value : α}
    (hvalue : storedAs steps generation = some value) (rest : List (Step α)) :
    storedAs (steps ++ rest) generation = some value := by
  cases generation with
  | zero =>
      cases hvalue
  | succ before =>
      have hlt : before < (stored steps).length := (List.getElem?_eq_some_iff.mp hvalue).1
      have hsame : (stored (steps ++ rest))[before]? = (stored steps)[before]? := by
        rw [stored_append, List.getElem?_append_left hlt]
      exact hsame.trans hvalue

theorem mem_stored_of_storedAs {steps : List (Step α)} {generation : Nat} {value : α}
    (hvalue : storedAs steps generation = some value) : value ∈ stored steps := by
  cases generation with
  | zero =>
      cases hvalue
  | succ before =>
      exact List.mem_of_getElem? hvalue

theorem storedAs_length (steps : List (Step α)) :
    storedAs steps (stored steps).length = (stored steps).getLast? := by
  rw [List.getLast?_eq_getElem?]
  cases hlength : (stored steps).length with
  | zero =>
      rw [List.length_eq_zero_iff.mp hlength]
      rfl
  | succ before =>
      rfl

theorem closedBy_append (steps rest : List (Step α)) :
    closedBy (steps ++ rest) = (closedBy steps || closedBy rest) :=
  List.any_append

theorem Step.share_of_listener {step : Step α} {mover : Nat} (hown : step.listener? = some mover)
    (slot : Broadcaster α) (unnotified : Nat) :
    step.share slot unnotified = (slot, unnotified) := by
  cases step with
  | store value | close | notify | listen =>
      cases hown
  | _ =>
      rfl

namespace Hub

/-! ## Runs -/

def run (hub : Hub α) (steps : List (Step α)) : Hub α :=
  steps.foldl (fun hub step => (hub.attempt step).1) hub

/-- The end that a step brings to a listener's wait, with the generation that the listener has then
got. -/
def endAt (hub : Hub α) (listener : Nat) (step : Step α) : Option (Nat × WaitOutcome α) :=
  (hub.outcomeFor listener step).map fun outcome => ((hub.attempt step).1.seen listener, outcome)

/-- The ends that steps bring to a listener's waits. -/
def ends (hub : Hub α) (listener : Nat) : List (Step α) → List (Nat × WaitOutcome α)
  | [] => []
  | step :: rest => (hub.endAt listener step).toList ++ (hub.attempt step).1.ends listener rest

def after (steps : List (Step α)) : Hub α :=
  init.run steps

/-- How a listener's waits have ended in a run from the beginning. -/
def waits (listener : Nat) (steps : List (Step α)) : List (Nat × WaitOutcome α) :=
  init.ends listener steps

variable (hub : Hub α) (listener : Nat) (steps : List (Step α)) (step : Step α)

theorem run_append (rest : List (Step α)) :
    hub.run (steps ++ rest) = (hub.run steps).run rest :=
  List.foldl_append

theorem ends_append (rest : List (Step α)) :
    hub.ends listener (steps ++ rest) =
      hub.ends listener steps ++ (hub.run steps).ends listener rest := by
  induction steps generalizing hub with
  | nil =>
      rfl
  | cons first steps ih =>
      have htail := ih (hub.attempt first).1
      simp only [List.cons_append, ends, htail, List.append_assoc]
      rfl

theorem after_append (rest : List (Step α)) :
    after (steps ++ rest) = (after steps).run rest :=
  run_append init steps rest

theorem after_concat : after (steps ++ [step]) = ((after steps).attempt step).1 :=
  after_append steps [step]

theorem waits_concat :
    waits listener (steps ++ [step]) =
      waits listener steps ++ ((after steps).endAt listener step).toList := by
  have happend := ends_append init listener steps [step]
  simp only [ends, List.append_nil] at happend
  exact happend

/-! ## The shared part -/

theorem share_eq :
    ((hub.attempt step).1.slot, (hub.attempt step).1.unnotified) =
      step.share hub.slot hub.unnotified := by
  cases hmover : step.listener? with
  | some mover =>
      -- What listeners do is between them and the slot, which they only read.
      rw [Step.share_of_listener hmover]
      rcases hub.step_of_listener hmover with hnone | ⟨change, outcome, -, hstep, -⟩
      · rw [attempt_of_none hnone]
      · rw [attempt_of_step hstep]
  | none =>
      cases step with
      | store value | close | listen =>
          rfl
      | notify =>
          by_cases howed : hub.unnotified = 0
          · -- No notification is possible then, and none is subtracted.
            have hnone : hub.step .notify = none := if_pos howed
            rw [attempt_of_none hnone]
            simp only [Step.share, howed]
          · rw [attempt_notify howed]
            rfl
      | _ =>
          cases hmover

theorem slot_attempt : (hub.attempt step).1.slot = (step.share hub.slot hub.unnotified).1 :=
  congrArg Prod.fst (hub.share_eq step)

theorem unnotified_attempt :
    (hub.attempt step).1.unnotified = (step.share hub.slot hub.unnotified).2 :=
  congrArg Prod.snd (hub.share_eq step)

/-- The slot holds the last value stored, and counts them all. -/
theorem slot_after :
    (after steps).slot = ⟨(stored steps).length, (stored steps).getLast?, closedBy steps⟩ := by
  induction steps using List.reverseRecOn with
  | nil =>
      rfl
  | append_singleton steps step ih =>
      rw [after_concat, slot_attempt, ih, stored_append, closedBy_append]
      cases step with
      | store value =>
          simp [Step.share, Broadcaster.broadcast, stored, closedBy, Step.stored?, Step.isClose]
      | close =>
          simp [Step.share, Broadcaster.close, stored, closedBy, Step.stored?, Step.isClose]
      | _ =>
          simp [Step.share, stored, closedBy, Step.stored?, Step.isClose]

theorem generation_after : (after steps).slot.generation = (stored steps).length :=
  congrArg Broadcaster.generation (slot_after steps)

theorem isClosed_after : (after steps).slot.isClosed = closedBy steps :=
  congrArg Broadcaster.isClosed (slot_after steps)

end Hub

/-! ## What is there to get -/

/-- What there is to get, after a run, for one that got generation `seen` last. -/
def offer (steps : List (Step α)) (seen : Nat) : Option (WaitOutcome α) :=
  if closedBy steps then some (.error .closed)
  else if seen < (stored steps).length then (stored steps).getLast?.map .ok
  else none

theorem poll_after (steps : List (Step α)) (seen : Nat) :
    (Hub.after steps).slot.poll seen = offer steps seen := by
  rw [Hub.slot_after]
  rfl

theorem offer_eq_none_iff {steps : List (Step α)} {seen : Nat} :
    offer steps seen = none ↔ closedBy steps = false ∧ (stored steps).length ≤ seen := by
  unfold offer
  by_cases hclosed : closedBy steps
  · simp [hclosed]
  · by_cases hnew : seen < (stored steps).length
    · have hlast : (stored steps).getLast? ≠ none := by
        rw [Ne, List.getLast?_eq_none_iff]
        exact List.ne_nil_of_length_pos (Nat.zero_lt_of_lt hnew)
      simp [hclosed, hnew, hlast]
    · simp [hclosed, hnew, Nat.le_of_not_lt hnew]

theorem offer_eq_ok_iff {steps : List (Step α)} {seen : Nat} {value : α} :
    offer steps seen = some (.ok value) ↔
      closedBy steps = false ∧ seen < (stored steps).length ∧
        (stored steps).getLast? = some value := by
  unfold offer
  by_cases hclosed : closedBy steps
  · simp [hclosed]
  · by_cases hnew : seen < (stored steps).length
    · simp [hclosed, hnew]
    · simp [hclosed, hnew]

theorem offer_of_closed {steps : List (Step α)} (hclosed : closedBy steps = true) (seen : Nat) :
    offer steps seen = some (.error .closed) :=
  if_pos hclosed

/-- What is there to get does not go away. -/
theorem offer_append_ne_none {steps : List (Step α)} {seen : Nat} (hoffer : offer steps seen ≠ none)
    (rest : List (Step α)) : offer (steps ++ rest) seen ≠ none := by
  intro hnone
  rcases offer_eq_none_iff.mp hnone with ⟨hopen, hlength⟩
  refine hoffer (offer_eq_none_iff.mpr ⟨?_, ?_⟩)
  · rw [closedBy_append, Bool.or_eq_false_iff] at hopen
    exact hopen.1
  · rw [stored_append, List.length_append] at hlength
    exact Nat.le_trans (Nat.le_add_right _ _) hlength

end EmulatorHost.Broadcast
