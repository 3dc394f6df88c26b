import EmulatorHost.Display.Codec
import EmulatorHost.Display.Frame

/-!
# Encoding for one display client

Each client has a processor of its own. It follows the size of the frames that it is fed, makes a
new engine whenever the size changes, and decides which frames become keyframes: the first one after
a start, a blank or a change of size, and, if an interval is set, one whenever more than the
interval has passed since the last.
-/

namespace EmulatorHost.Display

inductive EngineCall where
  | create (config : EngineConfig)
  | encode (image : Bytes) (keyframe : Bool)
deriving DecidableEq, Repr

/-- The state of a processor. All times are counted in one unit, milliseconds for a client's
stream. -/
structure Processor (σ : Type) where
  codec : Codec σ
  -- The longest time between keyframes, if any.
  interval : Option Nat
  width : UInt32 := 0
  height : UInt32 := 0
  engine : Option σ := none
  -- How many frames have been encoded since the last reset.
  frameCount : Nat := 0
  lastKeyframe : Option Nat := none

structure Outcome (σ : Type) where
  result : Except Error (List Packet)
  processor : Processor σ
  calls : List EngineCall

namespace Processor

variable {σ : Type}

/-- A new processor; the interval 0 means none. -/
def new (codec : Codec σ) (interval : Nat) : Processor σ where
  codec := codec
  interval := if interval = 0 then none else some interval

/-- Forgets everything but the codec and the interval. -/
def reset (processor : Processor σ) : Processor σ where
  codec := processor.codec
  interval := processor.interval

def resized (processor : Processor σ) (width height : UInt32) : Processor σ :=
  { processor.reset with width, height }

/-- The engine for a frame: the present one if it fits the frame's size, else a new one. -/
def engineFor (processor : Processor σ) (frame : Frame) :
    Except CodecFault σ × Processor σ × List EngineCall :=
  let config := EngineConfig.ofSize frame.width frame.height
  let fresh :=
    match processor.codec.create config with
    -- A failed creation leaves no size behind, so the next frame tries again.
    | .error fault => (.error fault, processor.reset, [.create config])
    | .ok engine =>
      (.ok engine, { processor.resized frame.width frame.height with engine := some engine },
        [.create config])
  match processor.engine with
  | some engine =>
    if frame.width == processor.width && frame.height == processor.height then
      (.ok engine, processor, [])
    else fresh
  | none => fresh

/-- The next frame is to be a keyframe. -/
def needsKeyframe (processor : Processor σ) (now : Nat) : Bool :=
  processor.frameCount == 0 ||
    match processor.interval, processor.lastKeyframe with
    | some interval, some last => decide (interval < now - last)
    | some _, none => true
    | none, _ => false

/-- Encodes a complete frame that has an area. -/
def encode (processor : Processor σ) (frame : Frame) (now : Nat) : Outcome σ :=
  match processor.engineFor frame with
  | (.error fault, processor, calls) => ⟨.error (.codec fault), processor, calls⟩
  | (.ok engine, processor, calls) =>
    let keyframe := processor.needsKeyframe now
    let image := (processor.codec.format engine).convert frame.data frame.width frame.height
    let calls := calls ++ [.encode image keyframe]
    match processor.codec.encode engine image keyframe with
    | (.error fault, engine) =>
      ⟨.error (.codec fault), { processor with engine := some engine }, calls⟩
    | (.ok packets, engine) =>
      ⟨.ok (packets.map fun data => ⟨keyframe, processor.width, processor.height, data⟩),
        { processor with
          engine := some engine
          frameCount := processor.frameCount + 1
          lastKeyframe := if keyframe then some now else processor.lastKeyframe },
        calls⟩

/-- Feeds a processor. No frame means no display, and yields the blank packet. A frame without area
only sets the size. -/
def process (processor : Processor σ) (frame : Option Frame) (now : Nat) : Outcome σ :=
  match frame with
  | none => ⟨.ok [Packet.blank], processor.reset, []⟩
  | some frame =>
    if !frame.isComplete then
      ⟨.error (.badFrame frame.width frame.height frame.data.length), processor, []⟩
    else if frame.isEmpty then ⟨.ok [], processor.resized frame.width frame.height, []⟩
    else processor.encode frame now

/-- Feeds a processor where arithmetic is checked: nothing if the program stops while it counts the
bytes that the frame's size demands. -/
def checkedProcess? (processor : Processor σ) (frame : Option Frame) (now : Nat) :
    Option (Outcome σ) :=
  match frame with
  | none => some (processor.process none now)
  | some frame =>
    (Frame.checkedByteCount? frame.width frame.height).map fun _ =>
      processor.process (some frame) now

end Processor

end EmulatorHost.Display
