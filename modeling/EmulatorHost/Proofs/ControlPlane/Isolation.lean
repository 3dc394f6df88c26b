import EmulatorHost.Proofs.ControlPlane.Life

/-!
# Isolation of launches

A launch that is over may still report, and a stop that its emulator was asked for may still fail.
Such events are stale. Without them a run comes to the same at each of its steps: in where the
control plane stands, in all that it published and showed, and in all that it asked of the launcher
and of the emulators (`essential_agrees`). So a launch that is over has no influence on a later one.
-/

namespace EmulatorHost.ControlPlane

/-- A launch is over: another one has been made since, or its emulator is no longer held. -/
def hasPassed (plane : ControlPlane) (launch : LaunchId) : Bool :=
  launch != plane.launches || plane.handle.isNone

/-- What is left of a stale event: nothing of a report, and of a failing stop an answer that does
not touch the control plane. -/
def Event.withdrawn : Event → List Event
  | .finishStop position _ => [.finishStop position (.ok ())]
  | _ => []

def Effect.isRequest : Effect → Bool
  | answer _ => false
  | _ => true

namespace Course

/-- An event is stale if it comes from a launch that is over: a report of that launch, or the
failure of a stop that its emulator was asked for. -/
def isStale (course : Course) : Event → Bool
  | .started launch | .exited launch _ | .frame launch _ => course.plane.hasPassed launch
  | .finishStop position (.error _) =>
    course.pending[position]?.any fun stop => course.plane.hasPassed stop.handle
  | _ => false

/-- What an event shows: what a listener gets then that has got every frame before. -/
def shownBy (course : Course) (event : Event) : List (Option Display.Frame) :=
  match (course.step event).1.plane.frames.poll course.plane.frames.generation with
  | some (.ok frame) => [frame]
  | _ => []

def shown (events : List Event) : List (Option Display.Frame) :=
  initial.plane.frames.value.toList ++ history shownBy events

def requestedBy (course : Course) (event : Event) : List Effect :=
  (course.step event).2.filter Effect.isRequest

def requested (events : List Event) : List Effect :=
  history requestedBy events

end Course

open Course

/-! ## Runs without what is stale -/

/-- What is left of an event that comes after others: a stale one is withdrawn unless it is
spared. -/
def residue (spared : List Event → Event → Bool) (before : List Event) (event : Event) :
    List Event :=
  if (after before).isStale event && !spared before event then event.withdrawn else [event]

def essentialFrom (spared : List Event → Event → Bool) (before : List Event) :
    List Event → List Event
  | [] => []
  | event :: rest =>
    residue spared before event ++ essentialFrom spared (before ++ [event]) rest

/-- A run from the beginning without its stale events. Some of them may be left in: `spared` is
asked about each, given the events before it. -/
def essential (spared : List Event → Event → Bool) (events : List Event) : List Event :=
  essentialFrom spared [] events

structure Agree (one other : List Event) : Prop where
  phase : (after one).plane.phase = (after other).plane.phase
  error : (after one).plane.error = (after other).plane.error
  handle : (after one).plane.handle = (after other).plane.handle
  launches : (after one).plane.launches = (after other).plane.launches
  published : published one = published other
  shown : shown one = shown other
  requested : requested one = requested other

section Essential

variable (spared : List Event → Event → Bool)

theorem essentialFrom_append (before events rest : List Event) :
    essentialFrom spared before (events ++ rest) =
      essentialFrom spared before events ++ essentialFrom spared (before ++ events) rest := by
  induction events generalizing before with
  | nil =>
      simp [essentialFrom]
  | cons event events ih =>
      simp only [List.cons_append, essentialFrom, ih, List.append_assoc, List.nil_append]

theorem essential_append (events rest : List Event) :
    essential spared (events ++ rest) =
      essential spared events ++ essentialFrom spared events rest :=
  essentialFrom_append spared [] events rest

theorem essential_concat (events : List Event) (event : Event) :
    essential spared (events ++ [event]) =
      essential spared events ++ residue spared events event := by
  simp [essential_append, essentialFrom]

end Essential

/-! ## What a stale event does -/

theorem heeds_of_hasPassed {plane : ControlPlane} {launch : LaunchId}
    (hpassed : plane.hasPassed launch = true) : plane.heeds launch = false := by
  cases hhandle : plane.handle with
  | none =>
      simp [heeds, hhandle]
  | some held =>
      have hother : launch ≠ plane.launches := by simpa [hasPassed, hhandle] using hpassed
      simp [heeds, hhandle, hother.symm]

namespace Course

/-- A stop that is answered without failure leaves the control plane as it is. -/
theorem plane_step_answered (course : Course) (position : Nat) :
    (course.step (.finishStop position (.ok ()))).1.plane = course.plane := by
  simp only [step, finishStop]
  split <;> rfl

/-- After a stale event everything is as if it had been withdrawn. -/
theorem step_of_isStale {course : Course} {event : Event} (hcourse : course.Consistent)
    (hstale : course.isStale event = true) :
    (course.step event).1 = (course.run event.withdrawn).1 := by
  cases event with
  | started launch =>
      have hheeds := heeds_of_hasPassed hstale
      -- The report looks at the phase, and an emulator is held while one is starting.
      have hignored : ¬ (course.plane.launches = launch ∧ course.plane.phase = .starting) := by
        rintro ⟨rfl, hphase⟩
        have hheld := hcourse.plane.held.mpr (Or.inl hphase)
        simp [heeds, hheld] at hheeds
      simp [step, run, Event.withdrawn, reportStarted, hignored]
  | exited launch error =>
      simp [step, run, Event.withdrawn, reportExit, heeds_of_hasPassed hstale]
  | frame launch frame =>
      simp [step, run, Event.withdrawn, reportFrame, heeds_of_hasPassed hstale]
  | finishStop position outcome =>
      cases outcome with
      | ok value =>
          cases hstale
      | error error =>
          rcases (Option.any_eq_true _ _).mp hstale with ⟨stop, hstop, hpassed⟩
          have hheeds := heeds_of_hasPassed hpassed
          rw [hcourse.pending stop (List.mem_of_getElem? hstop)] at hheeds
          unfold heeds at hheeds
          simp [step, run, Event.withdrawn, hstop, finishStop, hheeds]
  | _ =>
      cases hstale

/-- A stale event leaves the control plane as it is. -/
theorem plane_step_of_isStale {course : Course} {event : Event} (hcourse : course.Consistent)
    (hstale : course.isStale event = true) : (course.step event).1.plane = course.plane := by
  rw [step_of_isStale hcourse hstale]
  cases event with
  | finishStop position outcome =>
      exact plane_step_answered course position
  | _ =>
      rfl

theorem publishedBy_of_unchanged {course : Course} {event : Event}
    (hplane : (course.step event).1.plane = course.plane) : course.publishedBy event = [] := by
  rw [publishedBy, hplane, Broadcaster.poll]
  split <;> simp_all

theorem shownBy_of_unchanged {course : Course} {event : Event}
    (hplane : (course.step event).1.plane = course.plane) : course.shownBy event = [] := by
  rw [shownBy, hplane, Broadcaster.poll]
  split <;> simp_all

/-- The answer to a stop asks for nothing, whatever it is. -/
theorem requestedBy_finishStop (course : Course) (position : Nat)
    (outcome : Except Emulator.Error Unit) :
    course.requestedBy (.finishStop position outcome) = [] := by
  simp only [requestedBy, step]
  split <;> simp [Effect.isRequest]

theorem requestedBy_of_isStale {course : Course} {event : Event}
    (hstale : course.isStale event = true) : course.requestedBy event = [] := by
  cases event with
  | finishStop position outcome =>
      exact requestedBy_finishStop course position outcome
  | started launch =>
      rfl
  | exited launch error =>
      rfl
  | frame launch frame =>
      rfl
  | _ =>
      cases hstale

/-! ## A run and what is essential in it -/

theorem after_essential (spared : List Event → Event → Bool) (events : List Event) :
    after (essential spared events) = after events := by
  induction events using List.reverseRecOn with
  | nil =>
      rfl
  | append_singleton events event ih =>
      rw [essential_concat, after_append, ih, after_concat, residue]
      split
      · rename_i hwithdrawn
        have hstale := ((Bool.and_eq_true _ _).mp hwithdrawn).1
        exact (step_of_isStale (after_consistent events) hstale).symm
      · rfl

/-- An observer that sees nothing in stale events, and nothing in the answers that are left of
them, sees the same in the essential run. -/
theorem history_essential {α : Type} {look : Course → Event → List α}
    (hstale : ∀ course event, course.Consistent → course.isStale event = true →
      look course event = [])
    (hanswered : ∀ course position, look course (.finishStop position (.ok ())) = [])
    (spared : List Event → Event → Bool) (events : List Event) :
    history look (essential spared events) = history look events := by
  have hwithdrawn : ∀ course event, observe look course (Event.withdrawn event) = [] := by
    intro course event
    cases event with
    | finishStop position outcome =>
        simp only [Event.withdrawn, observe, hanswered, List.append_nil]
    | _ =>
        rfl
  induction events using List.reverseRecOn with
  | nil =>
      rfl
  | append_singleton events event ih =>
      rw [essential_concat, history_append, ih, after_essential, history_concat, residue]
      split
      · rename_i hout
        have hevent := ((Bool.and_eq_true _ _).mp hout).1
        rw [hwithdrawn, hstale (after events) event (after_consistent events) hevent]
      · simp only [observe, List.append_nil]

/-- The essential run has no steps but those of the run. -/
theorem exists_of_prefix_essential {spared : List Event → Event → Bool} {events kept : List Event}
    (hkept : kept <+: essential spared events) :
    ∃ before, before <+: events ∧ kept = essential spared before := by
  induction events using List.reverseRecOn with
  | nil =>
      exact ⟨[], List.prefix_rfl, List.prefix_nil.mp hkept⟩
  | append_singleton events event ih =>
      have hearlier : kept <+: essential spared events → ∃ before, before <+: events ++ [event] ∧
          kept = essential spared before := by
        intro hshort
        rcases ih hshort with ⟨before, hbegin, rfl⟩
        exact ⟨before, hbegin.trans (List.prefix_append events [event]), rfl⟩
      have hsplit := hkept
      rw [essential_concat] at hsplit
      -- At most one event is left of an event, so nothing lies between two steps of the run.
      have hshort : residue spared events event = [] ∨
          ∃ left, residue spared events event = [left] := by
        rw [residue]
        split
        · cases event <;> simp [Event.withdrawn]
        · exact Or.inr ⟨event, rfl⟩
      rcases hshort with hnone | ⟨left, hleft⟩
      · rw [hnone, List.append_nil] at hsplit
        exact hearlier hsplit
      · rw [hleft] at hsplit
        rcases List.prefix_concat_iff.mp hsplit with hall | hbefore
        · refine ⟨events ++ [event], List.prefix_rfl, ?_⟩
          rw [hall, essential_concat, hleft]
        · exact hearlier hbefore

theorem agree_essential (spared : List Event → Event → Bool) (events : List Event) :
    Agree (essential spared events) events := by
  have hafter := after_essential spared events
  have hpublished : history publishedBy (essential spared events) = history publishedBy events :=
    history_essential
      (fun _ _ hcourse hstale => publishedBy_of_unchanged (plane_step_of_isStale hcourse hstale))
      (fun course position => publishedBy_of_unchanged (plane_step_answered course position))
      spared events
  have hshown : history shownBy (essential spared events) = history shownBy events :=
    history_essential
      (fun _ _ hcourse hstale => shownBy_of_unchanged (plane_step_of_isStale hcourse hstale))
      (fun course position => shownBy_of_unchanged (plane_step_answered course position))
      spared events
  have hrequested : requested (essential spared events) = requested events :=
    history_essential (fun _ _ _ hstale => requestedBy_of_isStale hstale)
      (fun course position => requestedBy_finishStop course position (.ok ())) spared events
  exact {
    phase := by rw [hafter]
    error := by rw [hafter]
    handle := by rw [hafter]
    launches := by rw [hafter]
    published := by rw [published, published, hpublished]
    shown := by rw [shown, shown, hshown]
    requested := hrequested }

end Course

/-- Without its stale events, all or some of them, a run has the steps that are left, and at each of
them it agrees with the whole run. -/
theorem essential_agrees (spared : List Event → Event → Bool) (events : List Event) :
    (∀ before, before <+: events →
      essential spared before <+: essential spared events ∧
        Agree (essential spared before) before) ∧
    ∀ kept, kept <+: essential spared events →
      ∃ before, before <+: events ∧ kept = essential spared before := by
  refine ⟨?_, fun kept hkept => exists_of_prefix_essential hkept⟩
  rintro before ⟨rest, rfl⟩
  refine ⟨?_, agree_essential spared before⟩
  rw [essential_append]
  exact List.prefix_append _ _

/-- A run in which the first launch goes on to report, and a stop of its emulator fails, after it
has ended and a second one has begun. -/
def lateReports : List Event :=
  let options : LaunchOptions := ⟨⟨2048, 2, 320, 720, 1280⟩, true⟩
  [.start options (.ok ()), .started 1, .beginStop false, .exited 1 (some "boom"), .frame 1 default,
    .start options (.ok ()), .started 1, .finishStop 0 (.error .notReady), .frame 1 default,
    .exited 1 none, .started 2]

/-- Of the late reports nothing is left, and the second emulator runs as it does without them. -/
theorem lateReports_agree :
    essential (fun _ _ => false) lateReports =
      [.start ⟨⟨2048, 2, 320, 720, 1280⟩, true⟩ (.ok ()), .started 1, .beginStop false,
        .exited 1 (some "boom"), .start ⟨⟨2048, 2, 320, 720, 1280⟩, true⟩ (.ok ()),
        .finishStop 0 (.ok ()), .started 2] ∧
    Agree (essential (fun _ _ => false) lateReports) lateReports ∧
    (after lateReports).plane.phase = .running :=
  ⟨rfl, ((essential_agrees (fun _ _ => false) lateReports).1 lateReports List.prefix_rfl).2, rfl⟩

end EmulatorHost.ControlPlane
