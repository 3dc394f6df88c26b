import EmulatorHost.Proofs.ControlPlane.Milestone

/-!
# Consistency

The parts of the control plane agree with each other after every run: an emulator is held exactly
while one is starting or running, an error is kept exactly in the error phase, and the latest
published state is the present one. Every milestone is published once and nothing else is, so the
generation of the published states counts the milestones of the run.
-/

namespace EmulatorHost.ControlPlane

structure Consistent (plane : ControlPlane) : Prop where
  held : plane.handle.isSome = true ↔ plane.phase = .starting ∨ plane.phase = .running
  latest : ∀ launch, plane.handle = some launch → launch = plane.launches
  failed : plane.error.isSome = true ↔ plane.phase = .error
  published : plane.states.value = some plane.report
  statesOpen : plane.states.isClosed = false
  framesOpen : plane.frames.isClosed = false

/-- A course whose control plane is consistent, and whose pending stops were each taken from the
latest launch of their time. -/
structure Course.Consistent (course : Course) : Prop where
  plane : course.plane.Consistent
  pending : ∀ stop ∈ course.pending, stop.handle = stop.launches

namespace Consistent

variable {plane : ControlPlane}

/-- A launch is possible exactly when no emulator is held. -/
theorem canStart_iff (hplane : plane.Consistent) :
    plane.canStart = true ↔ plane.handle = none := by
  have hheld := hplane.held
  cases hphase : plane.phase with
  | stopped =>
      simpa [canStart, hphase] using hheld
  | starting =>
      simpa [canStart, hphase, Option.isSome_iff_ne_none] using hheld
  | running =>
      simpa [canStart, hphase, Option.isSome_iff_ne_none] using hheld
  | error =>
      simpa [canStart, hphase] using hheld

/-- The emulator that is held is that of the latest launch. -/
theorem handle_eq (hplane : plane.Consistent) (hheld : plane.handle.isSome = true) :
    plane.handle = some plane.launches := by
  rcases Option.isSome_iff_exists.mp hheld with ⟨launch, hlaunch⟩
  rw [hlaunch, hplane.latest launch hlaunch]

end Consistent

/-- A pending stop that is not outdated was taken from the latest launch. -/
theorem Course.Consistent.stop_handle_eq {course : Course} (hcourse : course.Consistent)
    {position : Nat} {stop : PendingStop} (hstop : course.pending[position]? = some stop)
    (hlaunches : stop.launches = course.plane.launches) :
    stop.handle = course.plane.launches := by
  calc
    stop.handle = stop.launches := hcourse.pending stop (List.mem_of_getElem? hstop)
    _ = course.plane.launches := hlaunches

/-- Entering a phase with an emulator and an error that fit it is consistent. -/
theorem consistent_enter {plane : ControlPlane} {phase : Phase} {handle : Option LaunchId}
    {error : Option String} (hplane : plane.Consistent)
    (hheld : handle.isSome = true ↔ phase = .starting ∨ phase = .running)
    (hlatest : ∀ launch, handle = some launch → launch = plane.launches)
    (hfailed : error.isSome = true ↔ phase = .error) :
    (plane.enter phase handle error).Consistent :=
  ⟨hheld, hlatest, hfailed, rfl, hplane.statesOpen, hplane.framesOpen⟩

/-- Launches can be counted on while no emulator is held. -/
theorem consistent_recount {plane : ControlPlane} (hplane : plane.Consistent)
    (hhandle : plane.handle = none) (launches : Nat) :
    Consistent { plane with launches } := by
  refine ⟨hplane.held, ?_, hplane.failed, hplane.published, hplane.statesOpen,
    hplane.framesOpen⟩
  intro launch hlaunch
  rw [hhandle] at hlaunch
  cases hlaunch

/-! ## One event -/

namespace Transition

variable {course : Course} {event : Event} {plane : ControlPlane} {milestone : Option Milestone}

theorem consistent (htransition : Transition course event plane milestone)
    (hcourse : course.plane.Consistent) : plane.Consistent := by
  cases htransition with
  | launched options hstart =>
      -- The count moves first, while no emulator is held that could fall behind it.
      have hidle := consistent_recount hcourse (hcourse.canStart_iff.mp hstart)
        (course.plane.launches + 1)
      exact consistent_enter hidle (by simp) (by simp) (by simp)
  | launchFailed options error hstart =>
      have hidle := consistent_recount hcourse (hcourse.canStart_iff.mp hstart)
        (course.plane.launches + 1)
      exact consistent_enter hidle (by simp) (by simp) (by simp)
  | started hphase =>
      have hheld : course.plane.handle.isSome = true := hcourse.held.mpr (Or.inl hphase)
      have hfine : ¬ course.plane.error.isSome = true := by
        intro herror
        rw [hcourse.failed.mp herror] at hphase
        cases hphase
      exact consistent_enter hcourse (by simp [hheld]) hcourse.latest (by simp [hfine])
  | exited error hhandle =>
      have hgone : (course.plane.enter (if error.isSome then .error else .stopped) none
          error).Consistent := by
        cases error with
        | none =>
            exact consistent_enter hcourse (by simp) (by simp) (by simp)
        | some text =>
            exact consistent_enter hcourse (by simp) (by simp) (by simp)
      exact ⟨hgone.held, hgone.latest, hgone.failed, hgone.published, hgone.statesOpen,
        hgone.framesOpen⟩
  | stopFailed position stop error hstop hlaunches hhandle =>
      exact consistent_enter hcourse (by simp) (by simp) (by simp)
  | frame frame hhandle =>
      exact ⟨hcourse.held, hcourse.latest, hcourse.failed, hcourse.published,
        hcourse.statesOpen, hcourse.framesOpen⟩
  | idle event =>
      exact hcourse

/-- A milestone is published once, and nothing else is published. -/
theorem generation_eq (htransition : Transition course event plane milestone) :
    plane.states.generation = course.plane.states.generation + milestone.toList.length := by
  cases htransition <;> rfl

/-- A launch is counted when it begins. -/
theorem launches_eq (htransition : Transition course event plane milestone) :
    plane.launches = course.plane.launches + milestone.toList.countP Milestone.isLaunch := by
  cases htransition <;> rfl

end Transition

namespace Course

/-- A stop that is pending after an event was pending before, or was taken by the event from the
emulator held. -/
theorem mem_pending_step {course : Course} {event : Event} {stop : PendingStop}
    (hstop : stop ∈ (course.step event).1.pending) :
    stop ∈ course.pending ∨
      course.plane.handle = some stop.handle ∧ stop.launches = course.plane.launches := by
  cases event with
  | beginStop force =>
      simp only [step, beginStop] at hstop
      split at hstop
      · rename_i taken htaken
        rcases List.mem_append.mp hstop with hold | hnew
        · exact Or.inl hold
        · split at htaken
          · rename_i handle _ hhandle
            cases htaken
            rw [List.mem_singleton.mp hnew]
            exact Or.inr ⟨hhandle, rfl⟩
          · cases htaken
      · exact Or.inl hstop
  | finishStop position outcome =>
      simp only [step] at hstop
      split at hstop
      · exact Or.inl (List.mem_of_mem_eraseIdx hstop)
      · exact Or.inl hstop
  | touch touch outcome =>
      simp only [step] at hstop
      split at hstop <;> exact Or.inl hstop
  | _ =>
      exact Or.inl hstop

theorem initial_consistent : initial.Consistent := by
  refine ⟨⟨?_, ?_, ?_, rfl, rfl, rfl⟩, ?_⟩ <;> simp [initial, ControlPlane.initial]

theorem step_consistent (course : Course) (event : Event) (hcourse : course.Consistent) :
    (course.step event).1.Consistent := by
  refine ⟨(course.transition event).consistent hcourse.plane, ?_⟩
  intro stop hstop
  rcases mem_pending_step hstop with hold | ⟨hhandle, hlaunches⟩
  · exact hcourse.pending stop hold
  · rw [hlaunches]
    exact hcourse.plane.latest stop.handle hhandle

theorem after_consistent (events : List Event) : (after events).Consistent :=
  after_induction (List.nil_prefix) initial_consistent step_consistent

/-! ## Counting -/

/-- The launcher is called for every launch that is counted. -/
theorem launches_step (course : Course) (event : Event) :
    (course.step event).1.plane.launches =
      course.plane.launches + (course.step event).2.countP Effect.isLaunch := by
  -- By the events and not by the transitions, which do not tell the effects.
  cases event with
  | start options outcome =>
      cases hstart : course.plane.canStart <;> cases outcome <;>
        simp [step, start, hstart, enter, publish, Effect.isLaunch, List.countP_cons]
  | beginStop force =>
      simp only [step]
      split <;> rfl
  | finishStop position outcome =>
      simp only [step]
      split
      · rename_i stop _
        cases outcome with
        | ok value =>
            rfl
        | error error =>
            simp only [finishStop]
            split <;> rfl
      · rfl
  | touch touch outcome =>
      simp only [step]
      split <;> rfl
  | requireRunning =>
      rfl
  | started launch =>
      simp only [step, reportStarted]
      split <;> rfl
  | exited launch error =>
      simp only [step, reportExit]
      split <;> rfl
  | frame launch frame =>
      simp only [step, reportFrame]
      split <;> rfl

theorem launches_eq_launcherCalls (events : List Event) :
    (after events).plane.launches = launcherCalls events := by
  induction events using List.reverseRecOn with
  | nil =>
      rfl
  | append_singleton events event ih =>
      have hcalls : launcherCalls (events ++ [event]) =
          launcherCalls events + ((after events).step event).2.countP Effect.isLaunch := by
        simp only [launcherCalls, run_effects, observe_concat, List.countP_append]
        rfl
      rw [after_concat, launches_step, ih, hcalls]

theorem milestones_concat (events : List Event) (event : Event) :
    milestones (events ++ [event]) =
      milestones events ++ ((after events).milestone? event).toList :=
  history_concat _ events event

theorem launches_eq_milestones (events : List Event) :
    (after events).plane.launches = (milestones events).countP Milestone.isLaunch := by
  induction events using List.reverseRecOn with
  | nil =>
      rfl
  | append_singleton events event ih =>
      rw [after_concat, ((after events).transition event).launches_eq, ih, milestones_concat,
        List.countP_append]

/-- The generation of the published states counts the first state and the milestones. -/
theorem states_generation_eq (events : List Event) :
    (after events).plane.states.generation = 1 + (milestones events).length := by
  induction events using List.reverseRecOn with
  | nil =>
      rfl
  | append_singleton events event ih =>
      rw [after_concat, ((after events).transition event).generation_eq, ih, milestones_concat,
        List.length_append, Nat.add_assoc]

end Course

def Report.wire (report : Report) : Nat × Option String :=
  (report.phase.number, report.error)

theorem Phase.number_iff (phase : Phase) :
    (phase.number = 0 ↔ phase = .error) ∧ (phase.number = 1 ↔ phase = .stopped) ∧
    (phase.number = 2 ↔ phase = .starting) ∧ (phase.number = 3 ↔ phase = .running) := by
  cases phase <;> decide

/-- After every run, the emulator held, the error kept, the latest published state with its
generation and the number of launches all fit the phase and the milestones of the run. -/
theorem parts_agree_after_run (events : List Event) :
    let plane := (Course.after events).plane
    let milestones := Course.milestones events
    (plane.handle.isSome = true ↔ plane.phase = .starting ∨ plane.phase = .running) ∧
    (plane.error.isSome = true ↔ plane.phase = .error) ∧
    (plane.states.value = some ⟨plane.phase, plane.error⟩ ∧
      (∃ number, plane.states.value.map Report.wire = some (number, plane.error) ∧
        (number = 0 ↔ plane.phase = .error) ∧ (number = 1 ↔ plane.phase = .stopped) ∧
        (number = 2 ↔ plane.phase = .starting) ∧ (number = 3 ↔ plane.phase = .running)) ∧
      plane.states.generation =
        1 + (milestones.countP Milestone.isLaunch + milestones.countP Milestone.isStart +
          milestones.countP Milestone.isExit + milestones.countP Milestone.isFailedStop)) ∧
    plane.launches = Course.launcherCalls events ∧
    plane.launches = milestones.countP Milestone.isLaunch := by
  intro plane milestones
  have hconsistent : plane.Consistent := (Course.after_consistent events).plane
  refine ⟨hconsistent.held, hconsistent.failed, ⟨hconsistent.published, ?_, ?_⟩, ?_, ?_⟩
  · refine ⟨plane.phase.number, ?_, plane.phase.number_iff⟩
    rw [hconsistent.published]
    rfl
  · rw [← Milestone.length_eq_kinds]
    exact Course.states_generation_eq events
  · exact Course.launches_eq_launcherCalls events
  · exact Course.launches_eq_milestones events

end EmulatorHost.ControlPlane
