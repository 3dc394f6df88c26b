import EmulatorHost.Proofs.ControlPlane.History

/-!
# Milestones

Most events leave the control plane as it is: a refused request, a report of a launch that is over,
the failure of a stop that comes too late. The others are the milestones of a launch. This module
tells them apart by what they change, and says in one relation, `Transition`, all that an event can
do:

* `Course.isEffective` — the event changes where the control plane stands;
* `Course.milestone?` — the milestone that an event is, with the launch it belongs to;
* `Course.transition` — every event is one of the seven transitions.
-/

namespace EmulatorHost.ControlPlane

inductive Ending where
  -- Its emulator reported its exit.
  | exited (error : Option String)
  -- A stop of its emulator failed, and the emulator was given up.
  | stopFailed (error : Emulator.Error)
deriving DecidableEq, Repr

inductive Progress where
  | launched (outcome : Except Emulator.Error Unit)
  | started
  | ended (ending : Ending)
deriving Repr

structure Milestone where
  launch : LaunchId
  progress : Progress
deriving Repr

namespace Milestone

def isLaunch : Milestone → Bool
  | ⟨_, .launched _⟩ => true
  | _ => false

/-- A heeded report that the emulator is up. -/
def isStart : Milestone → Bool
  | ⟨_, .started⟩ => true
  | _ => false

/-- A heeded report that the emulator is gone. -/
def isExit : Milestone → Bool
  | ⟨_, .ended (.exited _)⟩ => true
  | _ => false

/-- A failed stop that made the control plane give up the emulator. -/
def isFailedStop : Milestone → Bool
  | ⟨_, .ended (.stopFailed _)⟩ => true
  | _ => false

/-- There are four kinds of milestones. -/
theorem length_eq_kinds (milestones : List Milestone) :
    milestones.length =
      milestones.countP isLaunch + milestones.countP isStart + milestones.countP isExit +
        milestones.countP isFailedStop := by
  induction milestones with
  | nil =>
      rfl
  | cons milestone rest ih =>
      rcases milestone with ⟨launch, outcome | _ | ⟨error | error⟩⟩ <;>
        simp [isLaunch, isStart, isExit, isFailedStop, List.countP_cons, ih] <;> omega

end Milestone

namespace Effect

def isLaunch : Effect → Bool
  | launch _ _ => true
  | _ => false

end Effect

namespace Course

/-- An event takes effect if it changes the phase, the emulator held or the number of launches. -/
def isEffective (course : Course) (event : Event) : Bool :=
  let next := (course.step event).1.plane
  next.phase != course.plane.phase || next.handle != course.plane.handle ||
    next.launches != course.plane.launches

/-- The milestone that an event is, if it takes effect. A report belongs to the launch that makes
it, and a stop to the launch whose emulator was asked. -/
def milestone? (course : Course) (event : Event) : Option Milestone :=
  if course.isEffective event then
    match event with
    | .start _ outcome => some ⟨course.plane.launches + 1, .launched outcome⟩
    | .started launch => some ⟨launch, .started⟩
    | .exited launch error => some ⟨launch, .ended (.exited error)⟩
    | .finishStop position (.error error) =>
      course.pending[position]?.map fun stop => ⟨stop.handle, .ended (.stopFailed error)⟩
    | _ => none
  else none

def milestones (events : List Event) : List Milestone :=
  history (fun course event => (course.milestone? event).toList) events

def launcherCalls (events : List Event) : Nat :=
  (initial.run events).2.countP Effect.isLaunch

end Course

/-! ## What an event can do -/

inductive Transition (course : Course) : Event → ControlPlane → Option Milestone → Prop where
  -- What an event does to the control plane of a course: where it leads, and the milestone that it
  -- is.
  | launched (options : LaunchOptions) :
      course.plane.canStart = true →
      Transition course (.start options (.ok ()))
        (enter { course.plane with launches := course.plane.launches + 1 } .starting
          (some (course.plane.launches + 1)) none)
        (some ⟨course.plane.launches + 1, .launched (.ok ())⟩)
  | launchFailed (options : LaunchOptions) (error : Emulator.Error) :
      course.plane.canStart = true →
      Transition course (.start options (.error error))
        (enter { course.plane with launches := course.plane.launches + 1 } .error none
          (some error.message))
        (some ⟨course.plane.launches + 1, .launched (.error error)⟩)
  | started :
      course.plane.phase = .starting →
      Transition course (.started course.plane.launches)
        (publish { course.plane with phase := .running })
        (some ⟨course.plane.launches, .started⟩)
  | exited (error : Option String) :
      course.plane.handle.isSome = true →
      Transition course (.exited course.plane.launches error)
        ((course.plane.enter (if error.isSome then .error else .stopped) none error).show none)
        (some ⟨course.plane.launches, .ended (.exited error)⟩)
  | stopFailed (position : Nat) (stop : PendingStop) (error : Emulator.Error) :
      course.pending[position]? = some stop →
      stop.launches = course.plane.launches →
      course.plane.handle.isSome = true →
      Transition course (.finishStop position (.error error))
        (course.plane.enter .error none (some error.message))
        (some ⟨stop.handle, .ended (.stopFailed error)⟩)
  | frame (frame : Display.Frame) :
      course.plane.handle.isSome = true →
      Transition course (.frame course.plane.launches frame) (course.plane.show (some frame)) none
  | idle (event : Event) :
      Transition course event course.plane none

namespace Course

/-- An event that leaves the phase, the emulator and the number of launches is no milestone. -/
theorem milestone?_eq_none {course : Course} {event : Event}
    (hphase : (course.step event).1.plane.phase = course.plane.phase)
    (hhandle : (course.step event).1.plane.handle = course.plane.handle)
    (hlaunches : (course.step event).1.plane.launches = course.plane.launches) :
    course.milestone? event = none := by
  simp [milestone?, isEffective, hphase, hhandle, hlaunches]

theorem isEffective_of_milestone? {course : Course} {event : Event} {milestone : Milestone}
    (hmilestone : course.milestone? event = some milestone) : course.isEffective event = true := by
  unfold milestone? at hmilestone
  split at hmilestone
  · assumption
  · cases hmilestone

/-- An event that leaves the whole control plane is idle. -/
theorem transition_of_unchanged {course : Course} {event : Event}
    (hplane : (course.step event).1.plane = course.plane) :
    Transition course event (course.step event).1.plane (course.milestone? event) := by
  have hnone : course.milestone? event = none :=
    milestone?_eq_none (by rw [hplane]) (by rw [hplane]) (by rw [hplane])
  rw [hplane, hnone]
  exact Transition.idle event

theorem transition_start (course : Course) (options : LaunchOptions)
    (outcome : Except Emulator.Error Unit) :
    Transition course (.start options outcome) (course.step (.start options outcome)).1.plane
      (course.milestone? (.start options outcome)) := by
  cases hstart : course.plane.canStart with
  | false =>
      exact transition_of_unchanged (by simp [step, start, hstart])
  | true =>
      cases outcome with
      | ok value =>
          cases value
          simpa [milestone?, isEffective, step, start, hstart, enter, publish] using
            Transition.launched options hstart
      | error error =>
          simpa [milestone?, isEffective, step, start, hstart, enter, publish] using
            Transition.launchFailed options error hstart

theorem transition_started (course : Course) (launch : LaunchId) :
    Transition course (.started launch) (course.step (.started launch)).1.plane
      (course.milestone? (.started launch)) := by
  by_cases hheeded : course.plane.launches = launch ∧ course.plane.phase = .starting
  · rcases hheeded with ⟨rfl, hphase⟩
    simpa [milestone?, isEffective, step, reportStarted, hphase, publish] using
      Transition.started hphase
  · refine transition_of_unchanged ?_
    simp [step, reportStarted, hheeded]

theorem transition_exited (course : Course) (launch : LaunchId) (error : Option String) :
    Transition course (.exited launch error) (course.step (.exited launch error)).1.plane
      (course.milestone? (.exited launch error)) := by
  by_cases hheeded : course.plane.launches = launch ∧ course.plane.handle.isSome = true
  · rcases hheeded with ⟨rfl, hhandle⟩
    -- The phase may already be the one entered; it is the emulator let go that tells.
    have hchanged : none ≠ course.plane.handle := (Option.isSome_iff_ne_none.mp hhandle).symm
    simpa [milestone?, isEffective, step, reportExit, heeds, hhandle, hchanged, enter, publish,
      «show»] using Transition.exited error hhandle
  · refine transition_of_unchanged ?_
    simp [step, reportExit, heeds, hheeded]

theorem transition_finishStop (course : Course) (position : Nat)
    (outcome : Except Emulator.Error Unit) :
    Transition course (.finishStop position outcome)
      (course.step (.finishStop position outcome)).1.plane
      (course.milestone? (.finishStop position outcome)) := by
  cases hstop : course.pending[position]? with
  | none =>
      exact transition_of_unchanged (by simp [step, hstop])
  | some stop =>
      cases outcome with
      | ok value =>
          exact transition_of_unchanged (by simp [step, hstop, finishStop])
      | error error =>
          by_cases hheeded :
              course.plane.launches = stop.launches ∧ course.plane.handle.isSome = true
          · rcases hheeded with ⟨hlaunches, hhandle⟩
            have hchanged : none ≠ course.plane.handle :=
              (Option.isSome_iff_ne_none.mp hhandle).symm
            simpa [milestone?, isEffective, step, hstop, finishStop, hlaunches, hhandle, hchanged,
              enter, publish] using
              Transition.stopFailed position stop error hstop hlaunches.symm hhandle
          · refine transition_of_unchanged ?_
            simp [step, hstop, finishStop, hheeded]

theorem transition_frame (course : Course) (launch : LaunchId) (frame : Display.Frame) :
    Transition course (.frame launch frame) (course.step (.frame launch frame)).1.plane
      (course.milestone? (.frame launch frame)) := by
  by_cases hheeded : course.plane.launches = launch ∧ course.plane.handle.isSome = true
  · rcases hheeded with ⟨rfl, hhandle⟩
    simpa [milestone?, isEffective, step, reportFrame, heeds, hhandle, «show»] using
      Transition.frame frame hhandle
  · refine transition_of_unchanged ?_
    simp [step, reportFrame, heeds, hheeded]

/-- Every event is one of the transitions. Proofs about runs go by these cases. -/
theorem transition (course : Course) (event : Event) :
    Transition course event (course.step event).1.plane (course.milestone? event) := by
  cases event with
  | start options outcome =>
      exact transition_start course options outcome
  | beginStop force =>
      refine transition_of_unchanged ?_
      simp only [step]
      split <;> rfl
  | finishStop position outcome =>
      exact transition_finishStop course position outcome
  | touch touch outcome =>
      refine transition_of_unchanged ?_
      simp only [step]
      split <;> rfl
  | requireRunning =>
      exact transition_of_unchanged rfl
  | started launch =>
      exact transition_started course launch
  | exited launch error =>
      exact transition_exited course launch error
  | frame launch frame =>
      exact transition_frame course launch frame

end Course

end EmulatorHost.ControlPlane
