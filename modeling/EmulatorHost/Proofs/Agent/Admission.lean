import EmulatorHost.Agent.Shell
import EmulatorHost.Proofs.ControlPlane.Consistency

/-!
# Admission of calls

The calls that depend on where the emulator stands, and the phases in which each is admitted. A call
that comes in another phase is refused: it is answered that a precondition does not hold, and
nothing else happens. An admitted call is taken up: it asks the launcher or the emulator of the
latest launch, or it reaches for the device. The main statement is `refused_iff_not_admitted`.
-/

namespace EmulatorHost.Agent

open ControlPlane Adb

inductive Call where
  | start (options : LaunchOptions)
  | stop (force : Bool)
  | touch (touch : Touch)
  | listDirectory (path : String)
  | statFile (path : String) (followLinks : Bool)
  | pullFile (path : String)
  | pushFile (stream : ClientStream PushMessage)
  | openShell (stream : ClientStream ShellMessage)

structure Served where
  course : Course
  daemon : Daemon
  effects : List Effect

namespace Served

def ofStep (daemon : Daemon) (next : Course × List Effect) : Served :=
  ⟨next.1, daemon, next.2⟩

/-- A call that the device serves; of what it yields only its success counts here. -/
def ofDevice {α : Type} (course : Course) (outcome : Except Status α × Daemon) : Served :=
  ⟨course, outcome.2, [.answer (outcome.1.map fun _ => ())]⟩

/-- Only an error is answered, and nothing is done. -/
def failed (course : Course) (daemon : Daemon) (status : Status) : Served :=
  ⟨course, daemon, [.answer (.error status)]⟩

inductive Reaches (daemon : Daemon) (served : Served) : Prop where
  -- The device is reached for: a connection is dialled, or cannot be.
  | dialled (connection : Connection) :
      served.daemon.dialled = daemon.dialled ++ [connection] → Reaches daemon served
  | unreachable (error : Error) :
      Daemon.dial daemon.reach = .error error → served.daemon = daemon →
      served.effects = [.answer (.error error.status)] → Reaches daemon served

/-- A call goes to the device, unless a fault of the client's own ends it first. -/
def Proceeds (course : Course) (daemon : Daemon) (served : Served) : Option Status → Prop
  | some fault => served = .failed course daemon fault
  | none => served.course = course ∧ served.Reaches daemon

end Served

namespace Call

/-- Serves a call; `outcome` is what the launcher or the emulator answers if it is asked. -/
def serve (outcome : Except Emulator.Error Unit) (course : Course) (daemon : Daemon) :
    Call → Served
  | start options => .ofStep daemon (course.step (.start options outcome))
  | stop force => .ofStep daemon (course.step (.beginStop force))
  | touch input => .ofStep daemon (course.step (.touch input outcome))
  | listDirectory path => .ofDevice course (Agent.listDirectory course.plane path daemon)
  | statFile path followLinks =>
    .ofDevice course (Agent.statFile course.plane path followLinks daemon)
  | pullFile path => .ofDevice course (Agent.pullFile course.plane path daemon)
  | pushFile stream => .ofDevice course (Agent.pushFile course.plane stream daemon)
  | openShell stream => .ofDevice course (Agent.openShell course.plane stream daemon)

/-- The phases in which a call is admitted. -/
def phases : Call → List Phase
  | start _ => [.stopped, .error]
  | touch _ => [.starting, .running]
  | _ => [.running]

/-- How a call is refused. -/
def refusal : Call → Status
  | start _ => ⟨.failedPrecondition, "emulator already running"⟩
  | stop _ => ⟨.failedPrecondition, "emulator is not running"⟩
  | _ => ⟨.failedPrecondition, "emulator not running"⟩

/-- The status with which the client's own stream ends an admitted call before anything is dialled,
if it does: the stream fails, or does not begin as it has to. -/
def ownFault? : Call → Option Status
  | pushFile stream =>
    match stream.next with
    | .error status => some status
    | .ok (some (.start _ _, _)) => none
    | .ok _ => some missingStart
  | openShell stream =>
    match stream.next with
    | .error status => some status
    | .ok (some (.start shellType _ _, _)) =>
      if (shellKind? shellType).isSome then none else some (invalid "unknown shell type")
    | .ok _ => some missingStart
  | _ => none

/-- A call is taken up: the launcher is called, or the emulator of the latest launch and no other is
asked once, or the device is reached for unless the client's own stream prevents it. -/
def TakenUp (outcome : Except Emulator.Error Unit) (course : Course) (daemon : Daemon)
    (served : Served) : Call → Prop
  | start options =>
    served.daemon = daemon ∧
      ∃ result, served.effects = [.launch (course.plane.launches + 1) options, .answer result]
  | stop force =>
    course.plane.handle = some course.plane.launches ∧ served.daemon = daemon ∧
      served.course.plane = course.plane ∧
      served.effects = [.stop course.plane.launches force]
  | touch input =>
    course.plane.handle = some course.plane.launches ∧
      served = ⟨course, daemon,
        [.touch course.plane.launches input, .answer (Course.answerOf outcome)]⟩
  | call => served.Proceeds course daemon call.ownFault?

theorem refusal_code (call : Call) : call.refusal.code = .failedPrecondition := by
  cases call <;> rfl

end Call

/-! ## Calls to the device -/

/-- A failure of the device bridge is not told as a precondition that does not hold. -/
theorem status_code_ne_failedPrecondition (error : Error) :
    error.status.code ≠ .failedPrecondition := by
  cases error <;> simp [Error.status, Error.isTransport]

theorem requireRunning_eq (plane : ControlPlane) :
    plane.requireRunning =
      if plane.phase = .running then .ok ()
      else .error ⟨.failedPrecondition, "emulator not running"⟩ := by
  cases hphase : plane.phase <;> simp [requireRunning, hphase, ControlPlane.refusal]

section Device

variable {α : Type} {course : Course} {daemon : Daemon}

theorem ofDevice_of_not_running (hphase : course.plane.phase ≠ .running)
    (activity : Activity α) :
    Served.ofDevice course (onDevice course.plane activity daemon) =
      .failed course daemon ⟨.failedPrecondition, "emulator not running"⟩ := by
  simp [Served.ofDevice, Served.failed, onDevice, requireRunning_eq, hphase, Except.map]

theorem reaches_onDevice (hphase : course.plane.phase = .running) (activity : Activity α) :
    (Served.ofDevice course (onDevice course.plane activity daemon)).Reaches daemon := by
  cases hdial : Daemon.dial daemon.reach with
  | error error =>
      refine .unreachable error hdial ?_ ?_ <;>
        simp [Served.ofDevice, onDevice, requireRunning_eq, hphase, Daemon.use, hdial, Except.map]
  | ok met =>
      rcases met with ⟨peer, reach⟩
      cases hend : activity (.ofPeer peer.source .unlimited) with
      | mk outcome connection =>
          refine .dialled connection ?_
          simp [Served.ofDevice, onDevice, requireRunning_eq, hphase, Daemon.use, hdial, hend]

/-- A call that has gone to the device is not answered as if it had been refused. -/
theorem Served.Proceeds.fault_eq {fault? : Option Status} {status : Status}
    (hproceeds : (Served.failed course daemon status).Proceeds course daemon fault?)
    (hcode : status.code = .failedPrecondition) : fault? = some status := by
  cases fault? with
  | some fault =>
      have hsame : status = fault := by simpa [Proceeds, failed] using hproceeds
      rw [hsame]
  | none =>
      rcases hproceeds.2 with ⟨connection, hdialled⟩ | ⟨error, _, _, heffects⟩
      · simp [failed] at hdialled
      · have hstatus : status = error.status := by simpa [failed] using heffects
        exact absurd (hstatus ▸ hcode) (status_code_ne_failedPrecondition error)

end Device

/-! ## One call -/

namespace Call

variable {course : Course} {daemon : Daemon} {outcome : Except Emulator.Error Unit}

/-- A call that comes in a phase in which it is not admitted is refused. -/
theorem serve_of_not_admitted {call : Call} (hphase : course.plane.phase ∉ call.phases) :
    call.serve outcome course daemon = .failed course daemon call.refusal := by
  cases call with
  | start options =>
      have hstart : course.plane.canStart = false := by simpa [phases, canStart] using hphase
      simp [serve, Served.ofStep, Served.failed, Course.step, ControlPlane.start, hstart, refusal,
        ControlPlane.refusal]
  | stop force =>
      have hstop : course.plane.beginStop = .error (refusal (.stop force)) := by
        cases hnow : course.plane.phase <;>
          simp_all [phases, beginStop, refusal, ControlPlane.refusal]
      simp [serve, Served.ofStep, Served.failed, Course.step, hstop]
  | touch input =>
      have htouch : course.plane.touchTarget = .error (refusal (.touch input)) := by
        cases hnow : course.plane.phase <;>
          simp_all [phases, touchTarget, refusal, ControlPlane.refusal]
      simp [serve, Served.ofStep, Served.failed, Course.step, htouch]
  | pushFile stream =>
      have hrunning : course.plane.phase ≠ .running := by simpa [phases] using hphase
      simp [serve, Agent.pushFile, requireRunning_eq, hrunning, Served.ofDevice, Served.failed,
        refusal, Except.map]
  | openShell stream =>
      have hrunning : course.plane.phase ≠ .running := by simpa [phases] using hphase
      simp [serve, Agent.openShell, requireRunning_eq, hrunning, Served.ofDevice, Served.failed,
        refusal, Except.map]
  | _ =>
      exact ofDevice_of_not_running (by simpa [phases] using hphase) _

theorem proceeds_pushFile (hphase : course.plane.phase = .running)
    (stream : ClientStream PushMessage) :
    ((pushFile stream).serve outcome course daemon).Proceeds course daemon
      (pushFile stream).ownFault? := by
  simp only [ownFault?, serve, Agent.pushFile, requireRunning_eq, hphase, if_true]
  cases stream.next with
  | error status =>
      rfl
  | ok first =>
      rcases first with _ | ⟨message, rest⟩
      · rfl
      · cases message with
        | start path mode =>
            exact ⟨rfl, reaches_onDevice hphase _⟩
        | _ =>
            rfl

theorem proceeds_openShell (hphase : course.plane.phase = .running)
    (stream : ClientStream ShellMessage) :
    ((openShell stream).serve outcome course daemon).Proceeds course daemon
      (openShell stream).ownFault? := by
  simp only [ownFault?, serve, Agent.openShell, requireRunning_eq, hphase, if_true]
  cases stream.next with
  | error status =>
      rfl
  | ok first =>
      rcases first with _ | ⟨message, rest⟩
      · rfl
      · cases message with
        | start shellType command term =>
            cases hkind : shellKind? shellType with
            | none =>
                simp only [hkind]
                rfl
            | some kind =>
                simp only [hkind]
                exact ⟨rfl, reaches_onDevice hphase _⟩
        | _ =>
            rfl

/-- A call that comes in a phase in which it is admitted is taken up. -/
theorem takenUp_of_admitted {call : Call} (hcourse : course.Consistent)
    (hphase : course.plane.phase ∈ call.phases) :
    call.TakenUp outcome course daemon (call.serve outcome course daemon) := by
  cases call with
  | start options =>
      have hstart : course.plane.canStart = true := by simpa [phases, canStart] using hphase
      refine ⟨rfl, ?_⟩
      cases outcome <;>
        simp [serve, Served.ofStep, Course.step, ControlPlane.start, hstart, enter, publish]
  | stop force =>
      have hrunning : course.plane.phase = .running := by simpa [phases] using hphase
      -- The emulator asked is the one held, and that is the emulator of the latest launch.
      have hheld := hcourse.plane.handle_eq (hcourse.plane.held.mpr (Or.inr hrunning))
      refine ⟨hheld, rfl, ?_, ?_⟩ <;>
        simp [serve, Served.ofStep, Course.step, beginStop, hrunning, hheld]
  | touch input =>
      have hup : course.plane.phase = .starting ∨ course.plane.phase = .running := by
        simpa [phases] using hphase
      have hheld := hcourse.plane.handle_eq (hcourse.plane.held.mpr hup)
      refine ⟨hheld, ?_⟩
      rcases hup with hup | hup <;>
        simp [serve, Served.ofStep, Course.step, touchTarget, hup, hheld]
  | pushFile stream =>
      exact proceeds_pushFile (by simpa [phases] using hphase) stream
  | openShell stream =>
      exact proceeds_openShell (by simpa [phases] using hphase) stream
  | _ =>
      exact ⟨rfl, reaches_onDevice (by simpa [phases] using hphase) _⟩

/-- A call that is taken up is not refused; at most a fault of the client's own ends it alike. -/
theorem TakenUp.fault_eq {call : Call}
    (htaken : call.TakenUp outcome course daemon (.failed course daemon call.refusal)) :
    call.ownFault? = some call.refusal := by
  cases call with
  | start options =>
      rcases htaken with ⟨_, result, heffects⟩
      simp [Served.failed] at heffects
  | stop force =>
      rcases htaken with ⟨_, _, _, heffects⟩
      simp [Served.failed] at heffects
  | touch input =>
      rcases htaken with ⟨_, hserved⟩
      simp [Served.failed] at hserved
  | _ =>
      exact Served.Proceeds.fault_eq htaken (refusal_code _)

theorem TakenUp.eq_failed {call : Call} {served : Served} {fault : Status}
    (htaken : call.TakenUp outcome course daemon served) (hfault : call.ownFault? = some fault) :
    served = .failed course daemon fault := by
  cases call with
  | pushFile stream =>
      simp only [TakenUp, hfault] at htaken
      exact htaken
  | openShell stream =>
      simp only [TakenUp, hfault] at htaken
      exact htaken
  | _ =>
      cases hfault

end Call

/-- After every run a call is refused exactly in the phases in which it is not admitted: it is told
that a precondition does not hold, neither the launcher nor an emulator nor the device is asked, and
everything stays as it is. In the other phases it is taken up; a client whose own stream fails with
the status of the refusal gets this status back. -/
theorem refused_iff_not_admitted (events : List Event) (call : Call)
    (outcome : Except Emulator.Error Unit) (daemon : Daemon) :
    let course := Course.after events
    let served := call.serve outcome course daemon
    (served = .failed course daemon call.refusal ↔
      course.plane.phase ∉ call.phases ∨ call.ownFault? = some call.refusal) ∧
    (if course.plane.phase ∈ call.phases then call.TakenUp outcome course daemon served
      else served = .failed course daemon call.refusal) ∧
    call.refusal.code = .failedPrecondition := by
  intro course served
  have hcourse : course.Consistent := Course.after_consistent events
  by_cases hphase : course.plane.phase ∈ call.phases
  · have htaken : call.TakenUp outcome course daemon served :=
      Call.takenUp_of_admitted hcourse hphase
    refine ⟨⟨?_, ?_⟩, by rwa [if_pos hphase], call.refusal_code⟩
    · intro hserved
      rw [hserved] at htaken
      exact Or.inr htaken.fault_eq
    · rintro (hnot | hfault)
      · exact absurd hphase hnot
      · exact htaken.eq_failed hfault
  · have hrefused : served = .failed course daemon call.refusal := Call.serve_of_not_admitted hphase
    exact ⟨⟨fun _ => Or.inl hphase, fun _ => hrefused⟩, by rwa [if_neg hphase], call.refusal_code⟩

end EmulatorHost.Agent
