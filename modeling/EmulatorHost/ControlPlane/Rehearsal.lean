import EmulatorHost.ControlPlane.Run

/-!
# Rehearsals

A control plane whose launcher and emulators follow a script: which launches fail, how their
emulators answer, and what happens while one of them is being stopped. A rehearsal keeps a log of
what was asked of the launcher and of the emulators.
-/

namespace EmulatorHost.ControlPlane

/-- One thing to do with a control plane. Launches go by their order, from 0, as in the script. -/
inductive Command where
  | start (options : LaunchOptions)
  | stop (force : Bool)
  | touch (touch : Touch)
  | requireRunning
  | started (launch : Nat)
  | exited (launch : Nat) (error : Option String)
  | frame (launch : Nat) (frame : Display.Frame)
deriving Repr

/-- What is scripted for a launch: whether it fails, how its emulator answers stops and touches, and
what happens before it answers a stop. -/
structure LaunchScript where
  launch : Except Emulator.Error Unit := .ok ()
  stop : Except Emulator.Error Unit := .ok ()
  touch : Except Emulator.Error Unit := .ok ()
  duringStop : List Command := []

instance : Inhabited LaunchScript := ⟨{}⟩

/-- A rehearsal under way. The control plane may be gone while its launches still report. -/
structure Rehearsal where
  scripts : List LaunchScript
  course : Course
  isPresent : Bool
  launched : List LaunchOptions
  stops : List (Nat × Bool)
  touches : List (Nat × Touch)

inductive Reply where
  | done (result : Except Status Unit)
  -- There was no such launch.
  | noMonitor
  -- The control plane is gone.
  | dropped

namespace Rehearsal

def begin (scripts : List LaunchScript) : Rehearsal :=
  ⟨scripts, .initial, true, [], [], []⟩

/-- The script of a launch, given by its order from 0. -/
def script (rehearsal : Rehearsal) (launch : Nat) : LaunchScript :=
  rehearsal.scripts.getD launch {}

/-- The script of the emulator with this launch number, from 1. -/
def scriptOf (rehearsal : Rehearsal) (launch : LaunchId) : LaunchScript :=
  rehearsal.script (launch - 1)

def log (rehearsal : Rehearsal) : Effect → Rehearsal
  | .launch _ options => { rehearsal with launched := rehearsal.launched ++ [options] }
  | .stop handle force => { rehearsal with stops := rehearsal.stops ++ [(handle - 1, force)] }
  | .touch handle touch => { rehearsal with touches := rehearsal.touches ++ [(handle - 1, touch)] }
  | .answer _ => rehearsal

def answerIn (effects : List Effect) : Except Status Unit :=
  (effects.findSome? fun
    | .answer result => some result
    | _ => none).getD (.ok ())

def happen (rehearsal : Rehearsal) (event : Event) : Rehearsal × Except Status Unit :=
  let (course, effects) := rehearsal.course.step event
  (effects.foldl log { rehearsal with course }, answerIn effects)

def nextLaunch (rehearsal : Rehearsal) : Except Emulator.Error Unit :=
  (rehearsal.script rehearsal.launched.length).launch

def touchAnswer (rehearsal : Rehearsal) : Except Emulator.Error Unit :=
  match rehearsal.course.plane.handle with
  | some handle => (rehearsal.scriptOf handle).touch
  | none => .ok ()

/-- Lets a caller's event happen, unless the control plane is gone. -/
def call (rehearsal : Rehearsal) (event : Event) : Rehearsal × Reply :=
  if rehearsal.isPresent then
    let (rehearsal, result) := rehearsal.happen event
    (rehearsal, .done result)
  else (rehearsal, .dropped)

/-- Lets a report happen, if there was such a launch. It does nothing once the control plane is
gone. -/
def tell (rehearsal : Rehearsal) (launch : Nat) (event : Event) : Rehearsal × Reply :=
  if launch < rehearsal.launched.length then
    if rehearsal.isPresent then ((rehearsal.happen event).1, .done (.ok ()))
    else (rehearsal, .done (.ok ()))
  else (rehearsal, .noMonitor)

def finishStop (rehearsal : Rehearsal) (outcome : Except Emulator.Error Unit) :
    Rehearsal × Reply :=
  rehearsal.call (.finishStop (rehearsal.course.pending.length - 1) outcome)

/-- Follows a command. Stops within stops go `depth` deep. -/
def perform : Nat → Rehearsal → Command → Rehearsal × Reply
  | depth, rehearsal, command =>
    match command with
    | .start options => rehearsal.call (.start options rehearsal.nextLaunch)
    | .touch touch => rehearsal.call (.touch touch rehearsal.touchAnswer)
    | .requireRunning => rehearsal.call .requireRunning
    | .started launch => rehearsal.tell launch (.started (launch + 1))
    | .exited launch error => rehearsal.tell launch (.exited (launch + 1) error)
    | .frame launch frame => rehearsal.tell launch (.frame (launch + 1) frame)
    | .stop force =>
      match rehearsal.call (.beginStop force), rehearsal.course.plane.beginStop with
      | (asked, .done _), .ok stop =>
        let script := asked.scriptOf stop.handle
        let after :=
          match depth with
          | 0 => asked
          | depth + 1 => script.duringStop.foldl (fun r c => (perform depth r c).1) asked
        after.finishStop script.stop
      | refused, _ => refused

def follow (rehearsal : Rehearsal) (command : Command) : Rehearsal × Reply :=
  perform (rehearsal.scripts.length + 1) rehearsal command

def followAll (rehearsal : Rehearsal) : List Command → Rehearsal × List Reply
  | [] => (rehearsal, [])
  | command :: rest =>
    let (next, reply) := rehearsal.follow command
    let (last, replies) := next.followAll rest
    (last, reply :: replies)

def drop (rehearsal : Rehearsal) : Rehearsal :=
  { rehearsal with isPresent := false }

end Rehearsal

end EmulatorHost.ControlPlane
