import EmulatorHost.ControlPlane

/-!
# Runs of the control plane

What may happen to a control plane, one thing after the other. A stop happens in two parts, with
anything in between: the request is taken, and the emulator answers. `Course.step` is one event; it
tells what the control plane asked of the launcher and of the emulators, and what it answered.
-/

namespace EmulatorHost.ControlPlane

inductive Event where
  | start (options : LaunchOptions) (outcome : Except Emulator.Error Unit)
  | beginStop (force : Bool)
  -- The answer to the pending stop at a position comes.
  | finishStop (position : Nat) (outcome : Except Emulator.Error Unit)
  | touch (touch : Touch) (outcome : Except Emulator.Error Unit)
  | requireRunning
  | started (launch : LaunchId)
  | exited (launch : LaunchId) (error : Option String)
  | frame (launch : LaunchId) (frame : Display.Frame)
deriving Repr

inductive Effect where
  | launch (launch : LaunchId) (options : LaunchOptions)
  | stop (handle : LaunchId) (force : Bool)
  | touch (handle : LaunchId) (touch : Touch)
  -- A caller is answered.
  | answer (result : Except Status Unit)
deriving Repr

structure Course where
  plane : ControlPlane
  pending : List PendingStop
deriving Repr

namespace Course

def initial : Course :=
  ⟨.initial, []⟩

def answerOf (outcome : Except Emulator.Error Unit) : Except Status Unit :=
  outcome.mapError Emulator.Error.status

def step (course : Course) : Event → Course × List Effect
  | .start options outcome =>
    let (result, plane) := course.plane.start outcome
    ({ course with plane },
      if course.plane.canStart then [.launch plane.launches options, .answer result]
      else [.answer result])
  | .beginStop force =>
    match course.plane.beginStop with
    | .ok stop =>
      ({ course with pending := course.pending ++ [stop] }, [.stop stop.handle force])
    | .error status => (course, [.answer (.error status)])
  | .finishStop position outcome =>
    match course.pending[position]? with
    | some stop =>
      let (result, plane) := course.plane.finishStop stop outcome
      ({ plane, pending := course.pending.eraseIdx position }, [.answer result])
    | none => (course, [])
  | .touch touch outcome =>
    match course.plane.touchTarget with
    | .ok handle => (course, [.touch handle touch, .answer (answerOf outcome)])
    | .error status => (course, [.answer (.error status)])
  | .requireRunning => (course, [.answer course.plane.requireRunning])
  | .started launch => ({ course with plane := course.plane.reportStarted launch }, [])
  | .exited launch error => ({ course with plane := course.plane.reportExit launch error }, [])
  | .frame launch frame => ({ course with plane := course.plane.reportFrame launch frame }, [])

def run (course : Course) : List Event → Course × List Effect
  | [] => (course, [])
  | event :: rest =>
    let (next, now) := course.step event
    let (last, later) := next.run rest
    (last, now ++ later)

end Course

end EmulatorHost.ControlPlane
