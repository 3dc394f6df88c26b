import EmulatorHost.Avd
import EmulatorHost.Broadcast
import EmulatorHost.Console
import EmulatorHost.Status.Causes

/-!
# The control plane

The one owner of the emulator's life. It launches at most one emulator at a time, passes requests on
to it, and takes the reports of what became of it; every change is published. Launches are counted
from 1, and a report counts only if it comes from the latest launch.
-/

namespace EmulatorHost.ControlPlane

inductive Phase where
  | stopped
  | starting
  | running
  | error
deriving DecidableEq, Repr, Inhabited

namespace Phase

def word : Phase → String
  | stopped => "stopped"
  | starting => "starting"
  | running => "running"
  | error => "error"

def number : Phase → Nat
  | error => 0
  | stopped => 1
  | starting => 2
  | running => 3

def wireName : Phase → String
  | error => "ERROR"
  | stopped => "OFF"
  | starting => "STARTING"
  | running => "RUNNING"

end Phase

structure Report where
  phase : Phase
  error : Option String
deriving DecidableEq, Repr, Inhabited

structure LaunchOptions where
  profile : HardwareProfile
  rootAdb : Bool
deriving DecidableEq, Repr, Inhabited

/-- The number of a launch, from 1. -/
abbrev LaunchId := Nat

end ControlPlane

open ControlPlane

structure ControlPlane where
  phase : Phase
  -- The launch whose emulator is held, if one is.
  handle : Option LaunchId
  error : Option String
  -- How many launches there have been, failed ones included.
  launches : Nat
  states : Broadcaster Report
  frames : Broadcaster (Option Display.Frame)
deriving DecidableEq, Repr, Inhabited

namespace ControlPlane

/-- Nothing runs, and both broadcasters have said so. -/
def initial : ControlPlane where
  phase := .stopped
  handle := none
  error := none
  launches := 0
  states := Broadcaster.empty.broadcast ⟨.stopped, none⟩
  frames := Broadcaster.empty.broadcast none

def report (plane : ControlPlane) : Report :=
  ⟨plane.phase, plane.error⟩

def publish (plane : ControlPlane) : ControlPlane :=
  { plane with states := plane.states.broadcast plane.report }

/-- Shows a frame, or that there is no display. -/
def «show» (plane : ControlPlane) (frame : Option Display.Frame) : ControlPlane :=
  { plane with frames := plane.frames.broadcast frame }

/-- Moves to a phase, with or without an emulator and an error, and publishes it. -/
def enter (plane : ControlPlane) (phase : Phase) (handle : Option LaunchId)
    (error : Option String) : ControlPlane :=
  publish { plane with phase, handle, error }

/-- A refusal because the emulator is in the wrong phase. -/
def refusal (message : String) : Status :=
  ⟨.failedPrecondition, message⟩

def canStart (plane : ControlPlane) : Bool :=
  plane.phase == .stopped || plane.phase == .error

/-- Launches an emulator, if that is possible; `outcome` is what the launcher answers when it is
called. -/
def start (plane : ControlPlane) (outcome : Except Emulator.Error Unit) :
    Except Status Unit × ControlPlane :=
  if plane.canStart then
    let plane := { plane with launches := plane.launches + 1 }
    match outcome with
    | .ok () => (.ok (), plane.enter .starting (some plane.launches) none)
    | .error error =>
      (.error ⟨.internal, error.message⟩, plane.enter .error none (some error.message))
  else (.error (refusal "emulator already running"), plane)

/-- A stop that has been passed on and not yet been answered: the emulator asked, and the number of
launches at that time. -/
structure PendingStop where
  handle : LaunchId
  launches : Nat
deriving DecidableEq, Repr

/-- Takes the emulator that is to be stopped; it is asked afterwards, while other calls go on. -/
def beginStop (plane : ControlPlane) : Except Status PendingStop :=
  match plane.phase, plane.handle with
  | .running, some handle => .ok ⟨handle, plane.launches⟩
  | _, _ => .error (refusal "emulator is not running")

/-- Takes the emulator's answer to a stop. A failure ends the launch, unless it has ended before or
another one has begun. -/
def finishStop (plane : ControlPlane) (stop : PendingStop) (outcome : Except Emulator.Error Unit) :
    Except Status Unit × ControlPlane :=
  match outcome with
  | .ok () => (.ok (), plane)
  | .error error =>
    (.error error.status,
      if plane.launches == stop.launches && plane.handle.isSome then
        plane.enter .error none (some error.message)
      else plane)

/-- The emulator that takes touches, if one does. -/
def touchTarget (plane : ControlPlane) : Except Status LaunchId :=
  match plane.phase, plane.handle with
  | .starting, some handle | .running, some handle => .ok handle
  | _, _ => .error (refusal "emulator not running")

/-- The gate before everything that needs the device. -/
def requireRunning (plane : ControlPlane) : Except Status Unit :=
  if plane.phase == .running then .ok () else .error (refusal "emulator not running")

/-- A report of this launch counts. -/
def heeds (plane : ControlPlane) (launch : LaunchId) : Bool :=
  plane.launches == launch && plane.handle.isSome

def reportStarted (plane : ControlPlane) (launch : LaunchId) : ControlPlane :=
  if plane.launches == launch && plane.phase == .starting then
    publish { plane with phase := .running }
  else plane

def reportExit (plane : ControlPlane) (launch : LaunchId) (error : Option String) :
    ControlPlane :=
  if plane.heeds launch then
    (plane.enter (if error.isSome then .error else .stopped) none error).show none
  else plane

def reportFrame (plane : ControlPlane) (launch : LaunchId) (frame : Display.Frame) :
    ControlPlane :=
  if plane.heeds launch then plane.show (some frame) else plane

end ControlPlane

end EmulatorHost
