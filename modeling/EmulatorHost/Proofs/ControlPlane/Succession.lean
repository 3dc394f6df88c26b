import EmulatorHost.Proofs.ControlPlane.Consistency

/-!
# Succession of emulators

An emulator is alive from the launch that gave it until its launch reports its exit. The control
plane does not follow this to the end: it also gives up an emulator when a stop fails, and then the
next launch does not wait for the exit. So emulators are alive one at a time exactly in those runs
in which an emulator that was given up is gone before the next launch (`launchesAlone_iff`).
-/

namespace EmulatorHost.ControlPlane

namespace Milestone

def launched? : Milestone → Option LaunchId
  | ⟨launch, .launched (.ok _)⟩ => some launch
  | _ => none

/-- The launch whose emulator was given up after a failed stop. -/
def abandoned? : Milestone → Option LaunchId
  | ⟨launch, .ended (.stopFailed _)⟩ => some launch
  | _ => none

end Milestone

namespace Course

def launchedIn (events : List Event) : List LaunchId :=
  (milestones events).filterMap Milestone.launched?

def abandonedIn (events : List Event) : List LaunchId :=
  (milestones events).filterMap Milestone.abandoned?

/-- The launch that reports its exit by an event, heeded or not. Only a launch that has been made
reports. -/
def exitReport (course : Course) : Event → List LaunchId
  | .exited launch _ => if launch ≤ course.plane.launches then [launch] else []
  | _ => []

def exitedIn (events : List Event) : List LaunchId :=
  history exitReport events

/-- The launches whose emulators are alive after a run. -/
def aliveIn (events : List Event) : List LaunchId :=
  (launchedIn events).filter fun launch => launch ∉ exitedIn events

def callsLauncher (course : Course) (event : Event) : Bool :=
  (course.step event).2.any Effect.isLaunch

end Course

open Course

/-- Whenever the launcher is called in a run, every earlier launch that gave an emulator has
reported its exit. -/
def LaunchesAlone (events : List Event) : Prop :=
  ∀ before event, before ++ [event] <+: events → (after before).callsLauncher event = true →
    ∀ launch ∈ launchedIn before, launch ∈ exitedIn before

/-- At no time of a run two emulators are alive. -/
def OneAlive (events : List Event) : Prop :=
  ∀ before, before <+: events → ∀ one ∈ aliveIn before, ∀ other ∈ aliveIn before, one = other

/-- Whenever the launcher is called in a run, every launch whose emulator was given up has reported
its exit. -/
def AbandonedAreGone (events : List Event) : Prop :=
  ∀ before event, before ++ [event] <+: events → (after before).callsLauncher event = true →
    ∀ launch ∈ abandonedIn before, launch ∈ exitedIn before

/-! ## Where launches go -/

/-- Every launch that gave an emulator is accounted for: its emulator is held, or it reported its
exit, or its emulator was given up. -/
structure Accounted (plane : ControlPlane) (launched abandoned exited : List LaunchId) : Prop where
  held_launched : ∀ launch, plane.handle = some launch → launch ∈ launched
  abandoned_launched : ∀ launch ∈ abandoned, launch ∈ launched
  settled : ∀ launch ∈ launched,
    plane.handle = some launch ∨ launch ∈ exited ∨ launch ∈ abandoned

namespace Accounted

variable {course : Course} {event : Event} {plane next : ControlPlane}
variable {milestone : Option Milestone} {launched abandoned exited : List LaunchId}

/-- While no emulator is held, every launch has reported its exit or was given up. -/
theorem settled_of_none (haccounted : Accounted plane launched abandoned exited)
    (hnone : plane.handle = none) {launch : LaunchId} (hlaunch : launch ∈ launched) :
    launch ∈ exited ∨ launch ∈ abandoned := by
  rcases haccounted.settled launch hlaunch with hheld | hsettled
  · rw [hnone] at hheld
    cases hheld
  · exact hsettled

/-- Nothing changes while the same emulator is held, whoever reports an exit. -/
theorem keep (haccounted : Accounted plane launched abandoned exited)
    (hhandle : next.handle = plane.handle) (reports : List LaunchId) :
    Accounted next launched abandoned (exited ++ reports) := by
  refine ⟨?_, haccounted.abandoned_launched, ?_⟩
  · rw [hhandle]
    exact haccounted.held_launched
  · intro launch hlaunch
    rw [hhandle]
    rcases haccounted.settled launch hlaunch with hheld | hexited | habandoned
    · exact Or.inl hheld
    · exact Or.inr (Or.inl (List.mem_append_left _ hexited))
    · exact Or.inr (Or.inr habandoned)

/-- A launch that gives an emulator while none is held. -/
theorem begin (haccounted : Accounted plane launched abandoned exited)
    (hnone : plane.handle = none) {new : LaunchId} (hnew : next.handle = some new) :
    Accounted next (launched ++ [new]) abandoned exited := by
  refine ⟨?_, ?_, ?_⟩
  · intro launch hheld
    rw [hnew] at hheld
    cases hheld
    exact List.mem_append_right _ (List.mem_singleton_self _)
  · intro launch habandoned
    exact List.mem_append_left _ (haccounted.abandoned_launched launch habandoned)
  · intro launch hlaunch
    rcases List.mem_append.mp hlaunch with hold | hlast
    · exact Or.inr (haccounted.settled_of_none hnone hold)
    · rw [List.mem_singleton.mp hlast]
      exact Or.inl hnew

/-- The launch whose emulator is held reports its exit. -/
theorem exit (haccounted : Accounted plane launched abandoned exited) {held : LaunchId}
    (hheld : plane.handle = some held) (hnone : next.handle = none) :
    Accounted next launched abandoned (exited ++ [held]) := by
  refine ⟨?_, haccounted.abandoned_launched, ?_⟩
  · intro launch hlaunch
    rw [hnone] at hlaunch
    cases hlaunch
  · intro launch hlaunch
    rcases haccounted.settled launch hlaunch with hstill | hexited | habandoned
    · rw [hheld] at hstill
      cases hstill
      exact Or.inr (Or.inl (List.mem_append_right _ (List.mem_singleton_self _)))
    · exact Or.inr (Or.inl (List.mem_append_left _ hexited))
    · exact Or.inr (Or.inr habandoned)

/-- The emulator that is held is given up. -/
theorem abandon (haccounted : Accounted plane launched abandoned exited) {held : LaunchId}
    (hheld : plane.handle = some held) (hnone : next.handle = none) :
    Accounted next launched (abandoned ++ [held]) exited := by
  refine ⟨?_, ?_, ?_⟩
  · intro launch hlaunch
    rw [hnone] at hlaunch
    cases hlaunch
  · intro launch habandoned
    rcases List.mem_append.mp habandoned with hold | hlast
    · exact haccounted.abandoned_launched launch hold
    · rw [List.mem_singleton.mp hlast]
      exact haccounted.held_launched held hheld
  · intro launch hlaunch
    rcases haccounted.settled launch hlaunch with hstill | hexited | habandoned
    · rw [hheld] at hstill
      cases hstill
      exact Or.inr (Or.inr (List.mem_append_right _ (List.mem_singleton_self _)))
    · exact Or.inr (Or.inl hexited)
    · exact Or.inr (Or.inr (List.mem_append_left _ habandoned))

theorem step (haccounted : Accounted course.plane launched abandoned exited)
    (hcourse : course.Consistent) (htransition : Transition course event plane milestone) :
    Accounted plane (launched ++ milestone.toList.filterMap Milestone.launched?)
      (abandoned ++ milestone.toList.filterMap Milestone.abandoned?)
      (exited ++ course.exitReport event) := by
  cases htransition with
  | launched options hstart =>
      have hnone := hcourse.plane.canStart_iff.mp hstart
      simp only [Option.toList_some, List.filterMap_cons, List.filterMap_nil,
        Milestone.launched?, Milestone.abandoned?, exitReport, List.append_nil]
      exact haccounted.begin hnone rfl
  | launchFailed options error hstart =>
      have hnone := hcourse.plane.canStart_iff.mp hstart
      simp only [Option.toList_some, List.filterMap_cons, List.filterMap_nil,
        Milestone.launched?, Milestone.abandoned?, List.append_nil]
      exact haccounted.keep hnone.symm _
  | started hphase =>
      simp only [Option.toList_some, List.filterMap_cons, List.filterMap_nil,
        Milestone.launched?, Milestone.abandoned?, List.append_nil]
      refine haccounted.keep ?_ _
      rfl
  | exited error hhandle =>
      -- The launch that reports is the latest one, and that is the one held.
      have hheld := hcourse.plane.handle_eq hhandle
      have hreport : course.exitReport (.exited course.plane.launches error) =
          [course.plane.launches] := by
        simp [exitReport]
      simp only [hreport, Option.toList_some, List.filterMap_cons, List.filterMap_nil,
        Milestone.launched?, Milestone.abandoned?, List.append_nil]
      exact haccounted.exit hheld rfl
  | stopFailed position stop error hstop hlaunches hhandle =>
      have hheld := hcourse.plane.handle_eq hhandle
      have hstopped := hcourse.stop_handle_eq hstop hlaunches
      simp only [hstopped, Option.toList_some, List.filterMap_cons, List.filterMap_nil,
        Milestone.launched?, Milestone.abandoned?, exitReport, List.append_nil]
      exact haccounted.abandon hheld rfl
  | frame frame hhandle =>
      simp only [Option.toList_none, List.filterMap_nil, List.append_nil]
      refine haccounted.keep ?_ _
      rfl
  | idle event =>
      simp only [Option.toList_none, List.filterMap_nil, List.append_nil]
      exact haccounted.keep rfl _

end Accounted

/-! ## Runs -/

namespace Course

theorem launchedIn_concat (events : List Event) (event : Event) :
    launchedIn (events ++ [event]) =
      launchedIn events ++
        ((after events).milestone? event).toList.filterMap Milestone.launched? := by
  rw [launchedIn, milestones_concat, List.filterMap_append]
  rfl

theorem abandonedIn_concat (events : List Event) (event : Event) :
    abandonedIn (events ++ [event]) =
      abandonedIn events ++
        ((after events).milestone? event).toList.filterMap Milestone.abandoned? := by
  rw [abandonedIn, milestones_concat, List.filterMap_append]
  rfl

theorem exitedIn_concat (events : List Event) (event : Event) :
    exitedIn (events ++ [event]) = exitedIn events ++ (after events).exitReport event :=
  history_concat exitReport events event

theorem accounted_after (events : List Event) :
    Accounted (after events).plane (launchedIn events) (abandonedIn events)
      (exitedIn events) := by
  induction events using List.reverseRecOn with
  | nil =>
      refine ⟨?_, ?_, ?_⟩ <;> intro launch hlaunch <;> cases hlaunch
  | append_singleton events event ih =>
      rw [after_concat, launchedIn_concat, abandonedIn_concat, exitedIn_concat]
      exact ih.step (after_consistent events) ((after events).transition event)

/-- The launcher is called only when a launch is possible. -/
theorem canStart_of_callsLauncher {course : Course} {event : Event}
    (hcalls : course.callsLauncher event = true) : course.plane.canStart = true := by
  cases event with
  | start options outcome =>
      cases hstart : course.plane.canStart with
      | true =>
          rfl
      | false =>
          simp [callsLauncher, step, start, hstart, Effect.isLaunch] at hcalls
  | beginStop force =>
      simp only [callsLauncher, step] at hcalls
      split at hcalls <;> simp [Effect.isLaunch] at hcalls
  | finishStop position outcome =>
      simp only [callsLauncher, step] at hcalls
      split at hcalls <;> simp [Effect.isLaunch] at hcalls
  | touch touch outcome =>
      simp only [callsLauncher, step] at hcalls
      split at hcalls <;> simp [Effect.isLaunch] at hcalls
  | _ =>
      simp [callsLauncher, step, Effect.isLaunch] at hcalls

/-- When the launcher is called, every earlier launch that gave an emulator has reported its exit
or was given up. -/
theorem exited_or_abandoned_of_callsLauncher {before : List Event} {event : Event}
    (hcalls : (after before).callsLauncher event = true) {launch : LaunchId}
    (hlaunch : launch ∈ launchedIn before) :
    launch ∈ exitedIn before ∨ launch ∈ abandonedIn before :=
  (accounted_after before).settled_of_none
    ((after_consistent before).plane.canStart_iff.mp (canStart_of_callsLauncher hcalls)) hlaunch

theorem mem_aliveIn {events : List Event} {launch : LaunchId} :
    launch ∈ aliveIn events ↔ launch ∈ launchedIn events ∧ launch ∉ exitedIn events := by
  simp [aliveIn]

/-- An emulator that is alive after an event was alive before, or the event called the launcher for
it. -/
theorem mem_aliveIn_concat {events : List Event} {event : Event} {launch : LaunchId}
    (halive : launch ∈ aliveIn (events ++ [event])) :
    launch ∈ aliveIn events ∨
      launch = (after (events ++ [event])).plane.launches := by
  rcases mem_aliveIn.mp halive with ⟨hlaunch, hexited⟩
  rw [launchedIn_concat] at hlaunch
  rw [exitedIn_concat] at hexited
  rcases List.mem_append.mp hlaunch with hold | hnew
  · refine Or.inl (mem_aliveIn.mpr ⟨hold, ?_⟩)
    intro hearlier
    exact hexited (List.mem_append_left _ hearlier)
  · -- Only a launch that succeeds adds to the launched ones.
    have htransition := (after events).transition event
    rw [after_concat]
    generalize ((after events).step event).1.plane = plane at htransition ⊢
    generalize (after events).milestone? event = milestone at htransition hnew
    cases htransition with
    | launched options hstart =>
        have hlatest : launch = (after events).plane.launches + 1 := by
          simpa [Milestone.launched?] using hnew
        exact Or.inr hlatest
    | _ =>
        simp [Milestone.launched?] at hnew

theorem launches_of_not_callsLauncher {course : Course} {event : Event}
    (hcalls : course.callsLauncher event = false) :
    (course.step event).1.plane.launches = course.plane.launches := by
  have hnone : (course.step event).2.countP Effect.isLaunch = 0 := by
    rw [List.countP_eq_zero]
    simpa [callsLauncher] using hcalls
  rw [launches_step, hnone, Nat.add_zero]

/-- If launches are alone, only the emulator of the latest launch is ever alive. -/
theorem eq_latest_of_mem_aliveIn {events : List Event} (halone : LaunchesAlone events)
    {before : List Event} (hbegin : before <+: events) :
    ∀ launch ∈ aliveIn before, launch = (after before).plane.launches := by
  induction before using List.reverseRecOn with
  | nil =>
      intro launch halive
      cases halive
  | append_singleton before event ih =>
      intro launch halive
      rcases mem_aliveIn_concat halive with hold | hnew
      · cases hcalls : (after before).callsLauncher event with
        | true =>
            -- Nothing was alive before the call.
            rcases mem_aliveIn.mp hold with ⟨hlaunch, hexited⟩
            exact absurd (halone before event hbegin hcalls launch hlaunch) hexited
        | false =>
            rw [after_concat, launches_of_not_callsLauncher hcalls]
            exact ih ((List.prefix_append before [event]).trans hbegin) launch hold
      · exact hnew

end Course

/-- The launches of a run are alone, and no two emulators are ever alive, exactly if every emulator
that was given up after a failed stop has reported its exit by the next call of the launcher. -/
theorem launchesAlone_iff (events : List Event) :
    (LaunchesAlone events ∧ OneAlive events) ↔ AbandonedAreGone events := by
  constructor
  · rintro ⟨halone, _⟩ before event hbegin hcalls launch habandoned
    exact halone before event hbegin hcalls launch
      ((accounted_after before).abandoned_launched launch habandoned)
  · intro hgone
    have halone : LaunchesAlone events := by
      intro before event hbegin hcalls launch hlaunch
      rcases exited_or_abandoned_of_callsLauncher hcalls hlaunch with hexited | habandoned
      · exact hexited
      · exact hgone before event hbegin hcalls launch habandoned
    refine ⟨halone, ?_⟩
    intro before hbegin one hone other hother
    calc
      one = (after before).plane.launches := eq_latest_of_mem_aliveIn halone hbegin one hone
      _ = other := (eq_latest_of_mem_aliveIn halone hbegin other hother).symm

/-- A run in which the console refuses to stop the first emulator, and a second one is launched. -/
def overlappingLaunches : List Event :=
  let options : LaunchOptions := ⟨⟨2048, 2, 320, 720, 1280⟩, true⟩
  [.start options (.ok ()), .started 1, .beginStop false,
    .finishStop 0 (.error (.console ⟨.unavailable, "connection refused"⟩)),
    .start options (.ok ())]

/-- A failed stop lets a second emulator live beside the first. -/
theorem overlappingLaunches_not_alone :
    ¬ LaunchesAlone overlappingLaunches ∧ aliveIn overlappingLaunches = [1, 2] := by
  refine ⟨?_, by decide⟩
  intro halone
  have hexited : 1 ∈ exitedIn (overlappingLaunches.take 4) :=
    halone (overlappingLaunches.take 4) (.start ⟨⟨2048, 2, 320, 720, 1280⟩, true⟩ (.ok ()))
      (List.prefix_rfl) (by decide) 1 (by decide)
  exact absurd hexited (by decide)

end EmulatorHost.ControlPlane
