import EmulatorHost.Proofs.ControlPlane.Consistency

/-!
# Blanking the display

When an emulator reports its exit, the display is blanked; when it is given up after a failed stop,
the display is left as it is. So the display is blank whenever no emulator is held exactly in those
runs in which every emulator is given up with nothing on display (`blankWhileIdle_iff`). In these
runs a listener that is caught up while no emulator is held knows it, and listeners get frames of
the latest launch only.
-/

namespace EmulatorHost.ControlPlane

namespace Course

/-- The frame that an event puts on display, with the launch that captured it. -/
def captured (course : Course) (event : Event) : List (LaunchId × Display.Frame) :=
  match event with
  | .frame launch frame =>
    if (course.step event).1.plane.frames = course.plane.frames then [] else [(launch, frame)]
  | _ => []

def capturedIn (events : List Event) : List (LaunchId × Display.Frame) :=
  history captured events

end Course

open Course

/-- Whenever no emulator is held in a run, the display is blank. -/
def BlankWhileIdle (events : List Event) : Prop :=
  ∀ before, before <+: events → (after before).plane.handle = none →
    (after before).plane.frames.value = some none

/-- Whenever no emulator is held in a run, a listener that was told something earlier and has
nothing new to get was told that there is no display. -/
def CaughtUpToldBlank (events : List Event) : Prop :=
  ∀ before, before <+: events → (after before).plane.handle = none →
    ∀ earlier, earlier <+: before → ∀ seen shown,
      (after earlier).plane.frames.poll seen = some (.ok shown) →
      (after before).plane.frames.poll
        ((after earlier).plane.frames.seenAfter seen (some (.ok shown))) = none →
      shown = none

/-- A frame that a listener gets in a run is the last one captured, and by the latest launch. -/
def OnlyLatestFrames (events : List Event) : Prop :=
  ∀ before, before <+: events → ∀ seen frame,
    (after before).plane.frames.poll seen = some (.ok (some frame)) →
    (capturedIn before).getLast? = some ((after before).plane.launches, frame)

/-- Whenever an emulator is given up in a run because a stop failed, nothing is on display. -/
def AbandonedUnseen (events : List Event) : Prop :=
  ∀ before position error, before ++ [.finishStop position (.error error)] <+: events →
    (after before).isEffective (.finishStop position (.error error)) = true →
    (after before).plane.frames.value = some none

/-! ## What events do to the display -/

namespace Transition

variable {course : Course} {event : Event} {plane : ControlPlane} {milestone : Option Milestone}

theorem frames_eq (htransition : Transition course event plane milestone) :
    plane.frames = course.plane.frames ∨
      ∃ shown, plane.frames = course.plane.frames.broadcast shown := by
  cases htransition with
  | exited error hhandle =>
      exact Or.inr ⟨none, rfl⟩
  | frame frame hhandle =>
      exact Or.inr ⟨some frame, rfl⟩
  | _ =>
      exact Or.inl rfl

end Transition

namespace Course

/-- There is always something to show, if only that there is no display. -/
theorem exists_shown (events : List Event) :
    ∃ shown, (after events).plane.frames.value = some shown := by
  refine after_induction (motive := fun course => ∃ shown, course.plane.frames.value = some shown)
    List.nil_prefix ⟨none, rfl⟩ ?_
  intro course event hshown
  rcases (course.transition event).frames_eq with hsame | ⟨shown, hnew⟩
  · rw [hsame]
    exact hshown
  · rw [hnew]
    exact ⟨shown, rfl⟩

/-- The display changes only together with its generation. -/
theorem frames_eq_or_generation_lt {earlier later : List Event} (hbegin : earlier <+: later) :
    (after later).plane.frames = (after earlier).plane.frames ∨
      (after earlier).plane.frames.generation < (after later).plane.frames.generation := by
  refine after_induction (motive := fun course =>
      course.plane.frames = (after earlier).plane.frames ∨
        (after earlier).plane.frames.generation < course.plane.frames.generation)
    hbegin (Or.inl rfl) ?_
  intro course event hcourse
  rcases (course.transition event).frames_eq with hsame | ⟨shown, hnew⟩
  · rw [hsame]
    exact hcourse
  · refine Or.inr ?_
    rw [hnew]
    rcases hcourse with hcourse | hcourse
    · rw [hcourse]
      exact Nat.lt_succ_self _
    · exact Nat.lt_succ_of_lt hcourse

/-- A failed stop that takes effect leaves no emulator, and the display as it is. -/
theorem frames_of_abandoned {course : Course} {position : Nat} {error : Emulator.Error}
    (heffective : course.isEffective (.finishStop position (.error error)) = true) :
    (course.step (.finishStop position (.error error))).1.plane.handle = none ∧
      (course.step (.finishStop position (.error error))).1.plane.frames =
        course.plane.frames := by
  have htransition := course.transition (.finishStop position (.error error))
  unfold isEffective at heffective
  generalize (course.step (.finishStop position (.error error))).1.plane = plane
    at htransition heffective
  generalize course.milestone? (.finishStop position (.error error)) = milestone at htransition
  cases htransition with
  | stopFailed position stop error hstop hlaunches hhandle =>
      exact ⟨rfl, rfl⟩
  | idle event =>
      simp at heffective

/-- If emulators are given up unseen, the display is blank while no emulator is held. -/
theorem blankWhileIdle_of_abandonedUnseen {events : List Event} (hunseen : AbandonedUnseen events) :
    BlankWhileIdle events := by
  intro before
  induction before using List.reverseRecOn with
  | nil =>
      intro _ _
      rfl
  | append_singleton before event ih =>
      intro hbegin
      have hearlier := ih ((List.prefix_append before [event]).trans hbegin)
      have hconsistent := (after_consistent before).plane
      have htransition := (after before).transition event
      have hseen := hunseen before
      rw [after_concat]
      generalize ((after before).step event).1.plane = plane at htransition ⊢
      generalize hmilestone : (after before).milestone? event = milestone at htransition
      intro hnone
      cases htransition with
      | launched options hstart =>
          cases hnone
      | launchFailed options error hstart =>
          exact hearlier (hconsistent.canStart_iff.mp hstart)
      | started hphase =>
          exact hearlier hnone
      | exited error hhandle =>
          rfl
      | stopFailed position stop error hstop hlaunches hhandle =>
          -- The only transition that lets an emulator go and does not blank the display.
          exact hseen position error hbegin (isEffective_of_milestone? hmilestone)
      | frame frame hhandle =>
          have hnothing : (after before).plane.handle = none := hnone
          rw [hnothing] at hhandle
          cases hhandle
      | idle event =>
          exact hearlier hnone

/-- What is on display was captured last, and by the latest launch, if the display is blank while
no emulator is held. -/
theorem onlyLatestFrames_of_blankWhileIdle {events : List Event} (hblank : BlankWhileIdle events) :
    OnlyLatestFrames events := by
  -- A listener gets what is on display, so the invariant is about that.
  suffices hshown : ∀ before, before <+: events → ∀ frame,
      (after before).plane.frames.value = some (some frame) →
      (capturedIn before).getLast? = some ((after before).plane.launches, frame) by
    intro before hbegin seen frame hpoll
    exact hshown before hbegin frame (Broadcaster.value_of_poll hpoll)
  intro before
  induction before using List.reverseRecOn with
  | nil =>
      intro _ frame hframe
      cases hframe
  | append_singleton before event ih =>
      intro hbegin frame
      have hearlier := (List.prefix_append before [event]).trans hbegin
      have hlatest := ih hearlier frame
      have hidle := hblank before hearlier
      have hconsistent := (after_consistent before).plane
      have htransition := (after before).transition event
      rw [after_concat, capturedIn, history_concat]
      generalize hplane : ((after before).step event).1.plane = plane at htransition ⊢
      generalize (after before).milestone? event = milestone at htransition
      intro hframe
      cases htransition with
      | launched options hstart =>
          -- The display was blank before, so no frame of an earlier launch is left.
          have hnone := hidle (hconsistent.canStart_iff.mp hstart)
          exact absurd (hnone.symm.trans hframe) (by simp)
      | launchFailed options error hstart =>
          have hnone := hidle (hconsistent.canStart_iff.mp hstart)
          exact absurd (hnone.symm.trans hframe) (by simp)
      | started hphase =>
          simp only [captured, List.append_nil]
          exact hlatest hframe
      | exited error hhandle =>
          cases hframe
      | stopFailed position stop error hstop hlaunches hhandle =>
          simp only [captured, List.append_nil]
          exact hlatest hframe
      | frame shown hhandle =>
          cases hframe
          have hnew : (after before).captured (.frame (after before).plane.launches frame) =
              [((after before).plane.launches, frame)] := by
            simp [captured, hplane, «show», Broadcaster.broadcast_ne]
          rw [hnew, List.getLast?_concat]
          rfl
      | idle event =>
          have hnothing : (after before).captured event = [] := by
            cases event <;> simp [captured, hplane]
          rw [hnothing, List.append_nil]
          exact hlatest hframe

/-- A listener that is caught up was told what is on display now. -/
theorem shown_of_caughtUp {earlier later : List Event} (hbegin : earlier <+: later) {seen : Nat}
    {shown : Option Display.Frame}
    (htold : (after earlier).plane.frames.poll seen = some (.ok shown))
    (hcaught : (after later).plane.frames.poll
      ((after earlier).plane.frames.seenAfter seen (some (.ok shown))) = none) :
    (after later).plane.frames.value = some shown := by
  rcases exists_shown later with ⟨now, hnow⟩
  have hle : (after later).plane.frames.generation ≤ (after earlier).plane.frames.generation :=
    Broadcaster.generation_le_of_poll (after_consistent later).plane.framesOpen hnow hcaught
  -- It has nothing to get, so the generation stands and with it the display.
  rcases frames_eq_or_generation_lt hbegin with hsame | hlt
  · rw [hsame]
    exact Broadcaster.value_of_poll htold
  · exact absurd hlt (Nat.not_lt.mpr hle)

theorem caughtUpToldBlank_of_blankWhileIdle {events : List Event}
    (hblank : BlankWhileIdle events) : CaughtUpToldBlank events := by
  intro before hbegin hnone earlier hearlier seen shown htold hcaught
  have hshown := shown_of_caughtUp hearlier htold hcaught
  rw [hblank before hbegin hnone] at hshown
  exact (Option.some.inj hshown).symm

/-- If the display is blank while no emulator is held, emulators are given up unseen: giving one up
does not change what is on display. -/
theorem abandonedUnseen_of_blankWhileIdle {events : List Event} (hblank : BlankWhileIdle events) :
    AbandonedUnseen events := by
  intro before position error hbegin heffective
  rcases frames_of_abandoned heffective with ⟨hhandle, hframes⟩
  rw [← hframes, ← after_concat]
  refine hblank _ hbegin ?_
  rw [after_concat]
  exact hhandle

end Course

/-- The display is blank in a run whenever no emulator is held, listeners that are caught up then
have been told so, and listeners get frames of the latest launch only, exactly if nothing is on
display whenever an emulator is given up after a failed stop. -/
theorem blankWhileIdle_iff (events : List Event) :
    (BlankWhileIdle events ∧ CaughtUpToldBlank events ∧ OnlyLatestFrames events) ↔
      AbandonedUnseen events := by
  constructor
  · rintro ⟨hblank, _, _⟩
    exact abandonedUnseen_of_blankWhileIdle hblank
  · intro hunseen
    have hblank := blankWhileIdle_of_abandonedUnseen hunseen
    exact ⟨hblank, caughtUpToldBlank_of_blankWhileIdle hblank,
      onlyLatestFrames_of_blankWhileIdle hblank⟩

def staleFrame : List Event :=
  [.start ⟨⟨2048, 2, 320, 720, 1280⟩, true⟩ (.ok ()), .started 1, .frame 1 ⟨1, 1, [97, 98, 99]⟩,
    .beginStop false, .finishStop 0 (.error (.console ⟨.unavailable, "connection refused"⟩))]

/-- After a failed stop the last frame stays on display with no emulator held, and a listener gets
it even after the next launch. -/
theorem staleFrame_not_blank :
    ¬ BlankWhileIdle staleFrame ∧
      (after (staleFrame ++ [.start ⟨⟨2048, 2, 320, 720, 1280⟩, true⟩ (.ok ())])).plane.frames.poll 0 =
        some (.ok (some ⟨1, 1, [97, 98, 99]⟩)) := by
  refine ⟨?_, rfl⟩
  intro hblank
  have hvalue : (after staleFrame).plane.frames.value = some none :=
    hblank staleFrame List.prefix_rfl rfl
  exact absurd hvalue (by decide)

end EmulatorHost.ControlPlane
