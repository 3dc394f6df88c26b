import EmulatorHost.ControlPlane.Run
import Mathlib.Data.List.Induction

/-!
# Histories of the control plane

A run from the beginning is a list of events that grows at its end. `Course.after` is where such a
run leads, and `Course.history` collects what an observer sees in it, one event after the other.
Both unfold at the last event, so a property of runs is an induction over a list from its end.
-/

namespace EmulatorHost.ControlPlane

namespace Course

variable {α : Type}

def after (events : List Event) : Course :=
  (initial.run events).1

/-- What an observer sees from a course on. It looks at every event together with the course before
that event. -/
def observe (look : Course → Event → List α) (course : Course) : List Event → List α
  | [] => []
  | event :: rest => look course event ++ observe look (course.step event).1 rest

def history (look : Course → Event → List α) (events : List Event) : List α :=
  initial.observe look events

/-! ## Runs that go on -/

theorem run_append (course : Course) (events rest : List Event) :
    (course.run (events ++ rest)).1 = ((course.run events).1.run rest).1 := by
  induction events generalizing course with
  | nil =>
      rfl
  | cons first events ih =>
      exact ih (course.step first).1

theorem observe_append (look : Course → Event → List α) (course : Course)
    (events rest : List Event) :
    course.observe look (events ++ rest) =
      course.observe look events ++ (course.run events).1.observe look rest := by
  induction events generalizing course with
  | nil =>
      rfl
  | cons first events ih =>
      have htail := ih (course.step first).1
      simp only [List.cons_append, observe, run, htail, List.append_assoc]

theorem after_append (events rest : List Event) :
    after (events ++ rest) = ((after events).run rest).1 :=
  run_append initial events rest

theorem history_append (look : Course → Event → List α) (events rest : List Event) :
    history look (events ++ rest) = history look events ++ (after events).observe look rest :=
  observe_append look initial events rest

/-! ## Unfolding at the end -/

theorem observe_concat (look : Course → Event → List α) (course : Course)
    (events : List Event) (event : Event) :
    course.observe look (events ++ [event]) =
      course.observe look events ++ look (course.run events).1 event := by
  rw [observe_append]
  simp only [observe, List.append_nil]

theorem after_concat (events : List Event) (event : Event) :
    after (events ++ [event]) = ((after events).step event).1 :=
  after_append events [event]

theorem history_concat (look : Course → Event → List α) (events : List Event) (event : Event) :
    history look (events ++ [event]) = history look events ++ look (after events) event :=
  observe_concat look initial events event

/-- What the control plane does in a run is what it does at each of its events. -/
theorem run_effects (course : Course) (events : List Event) :
    (course.run events).2 = course.observe (fun course event => (course.step event).2) events := by
  induction events generalizing course with
  | nil =>
      rfl
  | cons first rest ih =>
      simp only [run, observe, ih]

/-! ## Beginnings of a run -/

/-- A property that every step keeps holds after a run if it held after a beginning of the run. -/
theorem after_induction {motive : Course → Prop} {before events : List Event}
    (hbegin : before <+: events) (hbefore : motive (after before))
    (hstep : ∀ course event, motive course → motive (course.step event).1) :
    motive (after events) := by
  rcases hbegin with ⟨rest, rfl⟩
  -- On what came after the beginning, from its end: the last event is the last step.
  induction rest using List.reverseRecOn with
  | nil =>
      simpa using hbefore
  | append_singleton rest event ih =>
      rw [← List.append_assoc, after_concat]
      exact hstep _ _ ih

end Course

end EmulatorHost.ControlPlane
