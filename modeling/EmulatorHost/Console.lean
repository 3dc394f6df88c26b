import EmulatorHost.Display.Frame
import EmulatorHost.Emulator.Error

/-!
# The emulator's console

The touch events that the console takes, and the size of the frames that it writes.
-/

namespace EmulatorHost

structure Touch where
  identifier : UInt32
  x : UInt32
  y : UInt32
  pressure : UInt32
  touchMajor : UInt32
  touchMinor : UInt32
deriving DecidableEq, Repr, Inhabited

namespace Console

inductive Expiration where
  -- When the console is to forget a touch that no further event follows.
  | unspecified
  | never
deriving DecidableEq, Repr

def Expiration.number : Expiration → Nat
  | unspecified => 0
  | never => 1

structure TouchEvent where
  identifier : Int32
  x : Int32
  y : Int32
  pressure : Int32
  touchMajor : Int32
  touchMinor : Int32
  expiration : Expiration
deriving DecidableEq, Repr

/-- Each word keeps its bits, and the touch never expires. -/
def TouchEvent.ofTouch (touch : Touch) : TouchEvent where
  identifier := touch.identifier.toInt32
  x := touch.x.toInt32
  y := touch.y.toInt32
  pressure := touch.pressure.toInt32
  touchMajor := touch.touchMajor.toInt32
  touchMinor := touch.touchMinor.toInt32
  expiration := .never

/-- The size of the frames that a display of this size yields; a display without area has none. -/
def frameLength (width height : UInt32) : Except Emulator.Error UInt64 :=
  let length := Display.Frame.byteCount width height
  if length == 0 then
    .error (.config ("display size " ++ toString width.toNat ++ "x" ++ toString height.toNat ++
      " is empty"))
  else .ok length

/-- The same where arithmetic is checked: nothing if the program stops while it counts. -/
def checkedFrameLength? (width height : UInt32) : Option (Except Emulator.Error UInt64) :=
  (Display.Frame.checkedByteCount? width height).map fun _ => frameLength width height

/-- The frame that an image of the console shows: the bytes that it carries, or, if it carries none,
those in the shared memory. -/
def captured (width height : UInt32) (shared image : Bytes) : Display.Frame :=
  ⟨width, height, if image.isEmpty then shared else image⟩

end Console

end EmulatorHost
