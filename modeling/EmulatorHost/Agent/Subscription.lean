import EmulatorHost.Agent.Feed
import EmulatorHost.Agent.Stream
import EmulatorHost.ControlPlane
import EmulatorHost.Display.Processor
import EmulatorHost.SysLog

/-!
# Subscriptions

What a client can follow: the states of the emulator, its display, and the lines of its console. The
first two are fed by broadcasts of the control plane, so a slow client skips what it missed; the
lines come from the listener's own queue, whose rule of dropping applies directly to the client.
-/

namespace EmulatorHost.Agent

open ControlPlane Display

def stateItems : Maker Unit Report Report :=
  fun memory _ report => (.ok [report], memory)

def displayItems {σ : Type} : Maker (Processor σ) (Option Frame) Packet :=
  fun processor now frame =>
    let outcome := processor.process frame now
    (outcome.result.mapError Display.Error.status, outcome.processor)

def codecOfFormat? (format : Int) : Option (Codec Unit) :=
  if format = 0 then some (.raw .rgb888)
  else if format = 1 then some (.raw .i420)
  else if format = 2 then some .vp8
  else none

/-- The processor for a client's display, in a format that there is, and whose codec can be had. -/
def displayProcessor (format : Int) (interval : Nat) : Except Status (Processor Unit) :=
  match codecOfFormat? format with
  | none => .error (invalid "unknown display format")
  | some codec =>
    match codec.check with
    | .ok () => .ok (.new codec interval)
    | .error fault => .error ⟨.unimplemented, fault.message⟩

inductive Subscription where
  | states (feed : Feed Unit Report)
  | display (feed : Feed (Processor Unit) Packet)
  | lines (listener : SysLog.ListenerId)

inductive Item where
  | state (report : Report)
  | packet (packet : Packet)
  | line (text : String)
  | failure (status : Status)
deriving DecidableEq, Repr, Inhabited

namespace Item

def ofSent {β : Type} (wrap : β → Item) : Except Status β → Item
  | .ok value => wrap value
  | .error status => failure status

end Item

namespace Subscription

def toStates : Subscription :=
  states (.begin () none)

/-- A new subscription to the display, paced if a rate is given. -/
def toDisplay (processor : Processor Unit) (rate now : Nat) : Subscription :=
  display (.begin processor (Ticker.ofRate? rate now))

def settle (plane : ControlPlane) (now : Nat) : Subscription → Subscription
  | states feed => states (feed.settle stateItems plane.states now)
  | display feed => display (feed.settle displayItems plane.frames now)
  | lines listener => lines listener

def pass (plane : ControlPlane) (limit : Nat) : Subscription → Subscription
  | states feed => states (feed.pass stateItems plane.states limit)
  | display feed => display (feed.pass displayItems plane.frames limit)
  | lines listener => lines listener

def wakesAt? : Subscription → Option Nat
  | states feed => feed.wakesAt?
  | display feed => feed.wakesAt?
  | lines _ => none

def isOver : Subscription → Bool
  | states feed => feed.isOver
  | display feed => feed.isOver
  | lines _ => false

def pop? (log : SysLog) : Subscription → Option (Item × Subscription × SysLog)
  | states feed => feed.pop?.map fun (item, feed) => (.ofSent .state item, states feed, log)
  | display feed => feed.pop?.map fun (item, feed) => (.ofSent .packet item, display feed, log)
  | lines listener =>
    match log.receive listener 1 with
    | (line :: _, log) => some (.line line, lines listener, log)
    | ([], _) => none

def leave (log : SysLog) : Subscription → SysLog
  | lines listener => log.drop listener
  | _ => log

end Subscription

end EmulatorHost.Agent
