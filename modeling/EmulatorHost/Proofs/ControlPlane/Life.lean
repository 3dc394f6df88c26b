import EmulatorHost.Proofs.ControlPlane.Consistency

/-!
# The lives of launches

What the control plane publishes in a run falls into one block for each call of the launcher. A
launch that fails publishes its error; any other publishes that it starts, perhaps that it runs, and
perhaps how it ended. The blocks come in launch order and do not overlap, because the launcher is
called only when the life before is over, and because only the latest launch, while its emulator is
held, has milestones. The main statement is `published_eq_lives`.
-/

namespace EmulatorHost.ControlPlane

/-! ## What milestones publish -/

def Ending.report : Ending → Report
  | exited none => ⟨.stopped, none⟩
  | exited (some error) => ⟨.error, some error⟩
  | stopFailed error => ⟨.error, some error.message⟩

def Progress.report : Progress → Report
  | launched (.ok _) => ⟨.starting, none⟩
  | launched (.error error) => ⟨.error, some error.message⟩
  | started => ⟨.running, none⟩
  | ended ending => ending.report

namespace Course

/-- What an event publishes: what a listener gets then that has got everything before. -/
def publishedBy (course : Course) (event : Event) : List Report :=
  match (course.step event).1.plane.states.poll course.plane.states.generation with
  | some (.ok report) => [report]
  | _ => []

/-- The states published in a run from the beginning, in order, with the one published at first. -/
def published (events : List Event) : List Report :=
  initial.plane.states.value.toList ++ history publishedBy events

end Course

theorem Transition.report_eq {course : Course} {event : Event} {plane : ControlPlane}
    {milestone : Milestone} (htransition : Transition course event plane (some milestone))
    (hcourse : course.plane.Consistent) : plane.report = milestone.progress.report := by
  cases htransition with
  | started hphase =>
      have hfine : course.plane.error = none := by
        rw [Option.eq_none_iff_forall_not_mem]
        intro error herror
        have hfailed := hcourse.failed.mp (Option.isSome_of_mem herror)
        rw [hphase] at hfailed
        cases hfailed
      simp [report, publish, Progress.report, hfine]
  | exited error hhandle =>
      cases error <;> rfl
  | _ =>
      rfl

theorem Transition.report_of_none {course : Course} {event : Event} {plane : ControlPlane}
    (htransition : Transition course event plane none) : plane.report = course.plane.report := by
  cases htransition <;> rfl

namespace Course

/-- An event publishes the state that its milestone leads to, and nothing if it is no milestone. -/
theorem publishedBy_eq {course : Course} (hcourse : course.Consistent) (event : Event) :
    course.publishedBy event =
      (course.milestone? event).toList.map fun milestone => milestone.progress.report := by
  -- A listener that has got everything gets something exactly if the generation moves.
  have htransition := course.transition event
  have hgeneration := htransition.generation_eq
  have hnext : (course.step event).1.plane.Consistent := htransition.consistent hcourse.plane
  cases hmilestone : course.milestone? event with
  | none =>
      simp only [hmilestone, Option.toList_none, List.length_nil, Nat.add_zero] at hgeneration
      simp [publishedBy, Broadcaster.poll, hnext.statesOpen, hgeneration]
  | some milestone =>
      simp only [hmilestone, Option.toList_some, List.length_singleton] at hgeneration
      rw [hmilestone] at htransition
      simp [publishedBy, Broadcaster.poll, hnext.statesOpen, hgeneration, hnext.published,
        htransition.report_eq hcourse.plane]

/-- An event publishes the present state, if it publishes anything; without that the present state is
still the one before. -/
theorem publishedBy_cases (events : List Event) (event : Event) :
    ((after events).publishedBy event = [] ∧
        (after (events ++ [event])).plane.report = (after events).plane.report) ∨
      (after events).publishedBy event = [(after (events ++ [event])).plane.report] := by
  have hcourse := after_consistent events
  have htransition := (after events).transition event
  rw [publishedBy_eq hcourse, after_concat]
  cases hmilestone : (after events).milestone? event with
  | none =>
      rw [hmilestone] at htransition
      exact Or.inl ⟨rfl, htransition.report_of_none⟩
  | some milestone =>
      rw [hmilestone] at htransition
      rw [htransition.report_eq hcourse.plane]
      exact Or.inr rfl

theorem published_concat (events : List Event) (event : Event) :
    published (events ++ [event]) = published events ++ (after events).publishedBy event := by
  simp only [published, history_concat, List.append_assoc]

/-- What is published is that nothing runs, and then what every milestone leads to. -/
theorem published_eq_milestones (events : List Event) :
    published events =
      ⟨.stopped, none⟩ ::
        (milestones events).map fun milestone => milestone.progress.report := by
  induction events using List.reverseRecOn with
  | nil =>
      rfl
  | append_singleton events event ih =>
      rw [published_concat, ih, publishedBy_eq (after_consistent events), milestones_concat,
        List.map_append, List.cons_append]

/-- The present state is the last one published. -/
theorem getLast?_published (events : List Event) :
    (published events).getLast? = some (after events).plane.report := by
  induction events using List.reverseRecOn with
  | nil =>
      rfl
  | append_singleton events event ih =>
      rw [published_concat]
      rcases publishedBy_cases events event with ⟨hnothing, hsame⟩ | hreport
      · rw [hnothing, List.append_nil, hsame]
        exact ih
      · rw [hreport]
        exact List.getLast?_concat

/-- The generation of the published states counts them. -/
theorem length_published (events : List Event) :
    (published events).length = (after events).plane.states.generation := by
  rw [published_eq_milestones, states_generation_eq, List.length_cons, List.length_map,
    Nat.add_comm]

end Course

/-! ## Lives -/

inductive Life where
  | failed (error : Emulator.Error)
  | launched (hasStarted : Bool) (ending : Option Ending)
deriving Repr

namespace Life

def isOver : Life → Bool
  | failed _ => true
  | launched _ ending => ending.isSome

def reports : Life → List Report
  | failed error => [⟨.error, some error.message⟩]
  | launched hasStarted ending =>
    ⟨.starting, none⟩ :: (if hasStarted then [⟨.running, none⟩] else []) ++
      (ending.map Ending.report).toList

def milestones (launch : LaunchId) : Life → List Milestone
  | failed error => [⟨launch, .launched (.error error)⟩]
  | launched hasStarted ending =>
    ⟨launch, .launched (.ok ())⟩ :: (if hasStarted then [⟨launch, .started⟩] else []) ++
      (ending.map fun ending => ⟨launch, .ended ending⟩).toList

/-- The phase in which a life leaves the control plane. -/
def phase : Life → Phase
  | failed _ => .error
  | launched _ (some ending) => ending.report.phase
  | launched true none => .running
  | launched false none => .starting

theorem map_milestones (launch : LaunchId) (life : Life) :
    (life.milestones launch).map (fun milestone => milestone.progress.report) = life.reports := by
  cases life with
  | failed error =>
      rfl
  | launched hasStarted ending =>
      cases hasStarted <;> cases ending <;> rfl

/-- The milestones of lives that follow each other, counted from launch 1. -/
def chronicle (lives : List Life) : List Milestone :=
  (lives.zipIdx 1).flatMap fun numbered => numbered.1.milestones numbered.2

theorem chronicle_concat (lives : List Life) (life : Life) :
    chronicle (lives ++ [life]) = chronicle lives ++ life.milestones (lives.length + 1) := by
  simp [chronicle, List.zipIdx_append, Nat.add_comm]

theorem map_chronicle (lives : List Life) :
    (chronicle lives).map (fun milestone => milestone.progress.report) =
      lives.flatMap reports := by
  induction lives using List.reverseRecOn with
  | nil =>
      rfl
  | append_singleton lives life ih =>
      rw [chronicle_concat, List.map_append, ih, map_milestones]
      simp

def phaseAfter (lives : List Life) : Phase :=
  (lives.getLast?.map phase).getD .stopped

@[simp] theorem phaseAfter_concat (lives : List Life) (life : Life) :
    phaseAfter (lives ++ [life]) = life.phase := by
  simp [phaseAfter]

theorem isOver_of_phase {life : Life} (hphase : life.phase = .stopped ∨ life.phase = .error) :
    life.isOver = true := by
  rcases life with error | ⟨_ | _, _ | ending⟩
  · rfl
  · rcases hphase with hphase | hphase <;> cases hphase
  · rfl
  · rcases hphase with hphase | hphase <;> cases hphase
  · rfl

theorem eq_of_phase_starting {life : Life} (hphase : life.phase = .starting) :
    life = launched false none := by
  rcases life with error | ⟨_ | _, _ | ⟨_ | error⟩ | error⟩
  all_goals first | rfl | cases hphase

theorem eq_of_phase_running {life : Life} (hphase : life.phase = .running) :
    life = launched true none := by
  rcases life with error | ⟨_ | _, _ | ⟨_ | error⟩ | error⟩
  all_goals first | rfl | cases hphase

/-- While an emulator is held, the last life is not over. -/
theorem exists_open_of_phase {lives : List Life}
    (hphase : phaseAfter lives = .starting ∨ phaseAfter lives = .running) :
    ∃ earlier hasStarted, lives = earlier ++ [launched hasStarted none] := by
  rcases List.eq_nil_or_concat lives with rfl | ⟨earlier, life, rfl⟩
  · rcases hphase with hphase | hphase <;> cases hphase
  · rw [List.concat_eq_append, phaseAfter_concat] at hphase
    rcases hphase with hstarting | hrunning
    · exact ⟨earlier, false, by rw [List.concat_eq_append, eq_of_phase_starting hstarting]⟩
    · exact ⟨earlier, true, by rw [List.concat_eq_append, eq_of_phase_running hrunning]⟩

end Life

/-! ## Runs as lives -/

/-- The lives that a run consists of: their milestones are those of the run, only the last of them
may go on, and the control plane is where they leave it. -/
structure Recorded (milestones : List Milestone) (plane : ControlPlane) (lives : List Life) :
    Prop where
  chronicle : milestones = Life.chronicle lives
  earlierOver : ∀ life ∈ lives.dropLast, life.isOver = true
  phase : plane.phase = Life.phaseAfter lives
  launches : plane.launches = lives.length

namespace Recorded

variable {milestones : List Milestone} {plane : ControlPlane} {lives : List Life}

/-- When a launch is possible, all lives are over. -/
theorem all_over (hrecorded : Recorded milestones plane lives) (hstart : plane.canStart = true) :
    ∀ life ∈ lives, life.isOver = true := by
  intro life hlife
  rcases List.eq_nil_or_concat lives with rfl | ⟨earlier, last, rfl⟩
  · cases hlife
  · have hover := hrecorded.earlierOver
    have hphase := hrecorded.phase
    rw [List.concat_eq_append] at hlife hover hphase
    rw [List.dropLast_concat] at hover
    rw [Life.phaseAfter_concat] at hphase
    rcases List.mem_append.mp hlife with hearlier | hlast
    · exact hover life hearlier
    · rw [List.mem_singleton.mp hlast]
      refine Life.isOver_of_phase ?_
      rw [← hphase]
      simpa [canStart] using hstart

/-- A new life begins when all lives are over. -/
theorem begin (hrecorded : Recorded milestones plane lives) (hstart : plane.canStart = true)
    (life : Life) {next : ControlPlane} (hphase : next.phase = life.phase)
    (hlaunches : next.launches = plane.launches + 1) :
    Recorded (milestones ++ life.milestones (plane.launches + 1)) next (lives ++ [life]) where
  chronicle := by rw [Life.chronicle_concat, hrecorded.chronicle, hrecorded.launches]
  earlierOver := by simpa using hrecorded.all_over hstart
  phase := by rw [Life.phaseAfter_concat, hphase]
  launches := by rw [hlaunches, hrecorded.launches, List.length_append, List.length_singleton]

/-- The last life goes on by a milestone. -/
theorem extend {earlier : List Life} {life : Life} {milestone : Milestone}
    (hrecorded : Recorded milestones plane (earlier ++ [life])) (longer : Life)
    {next : ControlPlane} (hlonger : longer.milestones plane.launches =
      life.milestones plane.launches ++ [milestone])
    (hphase : next.phase = longer.phase) (hlaunches : next.launches = plane.launches) :
    Recorded (milestones ++ [milestone]) next (earlier ++ [longer]) where
  chronicle := by
    have hnumber : plane.launches = earlier.length + 1 := by
      rw [hrecorded.launches, List.length_append, List.length_singleton]
    rw [Life.chronicle_concat, ← hnumber, hlonger, hrecorded.chronicle, Life.chronicle_concat,
      ← hnumber, List.append_assoc]
  earlierOver := by simpa using hrecorded.earlierOver
  phase := by rw [Life.phaseAfter_concat, hphase]
  launches := by
    rw [hlaunches, hrecorded.launches, List.length_append, List.length_append,
      List.length_singleton, List.length_singleton]

/-- While an emulator is held, the end of the latest launch ends the last life. -/
theorem finish (hrecorded : Recorded milestones plane lives) (hplane : plane.Consistent)
    (hheld : plane.handle.isSome = true) (ending : Ending) {next : ControlPlane}
    (hphase : next.phase = ending.report.phase) (hlaunches : next.launches = plane.launches) :
    ∃ longer, Recorded (milestones ++ [⟨plane.launches, .ended ending⟩]) next longer := by
  have hopen := hplane.held.mp hheld
  rw [hrecorded.phase] at hopen
  rcases Life.exists_open_of_phase hopen with ⟨earlier, hasStarted, rfl⟩
  refine ⟨earlier ++ [.launched hasStarted (some ending)],
    hrecorded.extend (.launched hasStarted (some ending)) ?_ ?_ hlaunches⟩
  · simp [Life.milestones]
  · cases hasStarted <;> exact hphase

/-- Every transition continues the record. -/
theorem step {course : Course} {event : Event} {milestone : Option Milestone}
    (hrecorded : Recorded milestones course.plane lives) (hcourse : course.Consistent)
    (htransition : Transition course event plane milestone) :
    ∃ longer, Recorded (milestones ++ milestone.toList) plane longer := by
  cases htransition with
  | launched options hstart =>
      refine ⟨lives ++ [Life.launched false none],
        hrecorded.begin hstart (.launched false none) ?_ ?_⟩
      · rfl
      · rfl
  | launchFailed options error hstart =>
      refine ⟨lives ++ [Life.failed error], hrecorded.begin hstart (.failed error) ?_ ?_⟩
      · rfl
      · rfl
  | started hphase =>
      -- In the starting phase the last life has only begun, so the emulator comes up once.
      have hopen := hrecorded.phase
      rw [hphase] at hopen
      rcases List.eq_nil_or_concat lives with rfl | ⟨earlier, life, rfl⟩
      · cases hopen
      · rw [List.concat_eq_append, Life.phaseAfter_concat] at hopen
        rw [List.concat_eq_append, Life.eq_of_phase_starting hopen.symm] at hrecorded
        refine ⟨earlier ++ [Life.launched true none],
          hrecorded.extend (.launched true none) ?_ ?_ ?_⟩
        · rfl
        · rfl
        · rfl
  | exited error hhandle =>
      refine hrecorded.finish hcourse.plane hhandle (.exited error) ?_ rfl
      cases error <;> rfl
  | stopFailed position stop error hstop hlaunches hhandle =>
      -- The stop was taken from the launch that is still the latest one.
      rw [hcourse.stop_handle_eq hstop hlaunches]
      exact hrecorded.finish hcourse.plane hhandle (.stopFailed error) rfl rfl
  | frame frame hhandle =>
      exact ⟨lives, by simpa using hrecorded.chronicle, hrecorded.earlierOver, hrecorded.phase,
        hrecorded.launches⟩
  | idle event =>
      exact ⟨lives, by simpa using hrecorded.chronicle, hrecorded.earlierOver, hrecorded.phase,
        hrecorded.launches⟩

end Recorded

theorem exists_recorded (events : List Event) :
    ∃ lives, Recorded (Course.milestones events) (Course.after events).plane lives := by
  induction events using List.reverseRecOn with
  | nil =>
      exact ⟨[], rfl, by simp, rfl, rfl⟩
  | append_singleton events event ih =>
      rcases ih with ⟨lives, hrecorded⟩
      rw [Course.milestones_concat, Course.after_concat]
      exact hrecorded.step (Course.after_consistent events)
        ((Course.after events).transition event)

/-- What is published in a run is that nothing runs, and then one block of states for each call of
the launcher, in launch order. Only the last launch may lack its final state. The blocks are those
of the milestones of the run: what the launcher answered, and which report or failed stop ended the
launch. Nothing else is published. -/
theorem published_eq_lives (events : List Event) :
    ∃ lives : List Life,
      Course.published events = ⟨.stopped, none⟩ :: lives.flatMap Life.reports ∧
      lives.length = Course.launcherCalls events ∧
      (∀ life ∈ lives.dropLast, life.isOver = true) ∧
      Course.milestones events = Life.chronicle lives ∧
      Course.published events = ⟨.stopped, none⟩ ::
        (Course.milestones events).map (fun milestone => milestone.progress.report) ∧
      (Course.published events).length = (Course.after events).plane.states.generation := by
  rcases exists_recorded events with ⟨lives, hrecorded⟩
  have hpublished := Course.published_eq_milestones events
  refine ⟨lives, ?_, ?_, hrecorded.earlierOver, hrecorded.chronicle, hpublished, ?_⟩
  · rw [hpublished, hrecorded.chronicle, Life.map_chronicle]
  · rw [← hrecorded.launches, Course.launches_eq_launcherCalls]
  · rw [hpublished, Course.states_generation_eq, List.length_cons, List.length_map, Nat.add_comm]

end EmulatorHost.ControlPlane
