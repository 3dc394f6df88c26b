import EmulatorHost.Bytes

/-!
# Frames and packets

A frame is one captured screen, three bytes per pixel. A packet is what a display client receives.
-/

namespace EmulatorHost.Display

structure Frame where
  width : UInt32
  height : UInt32
  data : Bytes
deriving DecidableEq, Repr, Inhabited

/-- The product of two words, if it fits into a word. -/
def product? (left right : UInt64) : Option UInt64 :=
  if left.toNat * right.toNat < UInt64.size then some (left * right) else none

namespace Frame

/-- How many bytes the size of a frame demands, in 64-bit arithmetic. -/
def byteCount (width height : UInt32) : UInt64 :=
  width.toUInt64 * height.toUInt64 * 3

/-- The same count where arithmetic is checked: nothing if one of the two products takes more than 64
bits, since the program stops there. -/
def checkedByteCount? (width height : UInt32) : Option UInt64 :=
  (product? width.toUInt64 height.toUInt64).bind fun pixels => product? pixels 3

/-- The frame carries as many bytes as its size demands. -/
def isComplete (frame : Frame) : Bool :=
  frame.data.length == (byteCount frame.width frame.height).toNat

/-- The frame has no area. -/
def isEmpty (frame : Frame) : Bool :=
  frame.width == 0 || frame.height == 0

end Frame

structure Packet where
  isKeyframe : Bool
  width : UInt32
  height : UInt32
  data : Bytes
deriving DecidableEq, Repr, Inhabited

/-- The packet that tells a client that there is no display. -/
def Packet.blank : Packet :=
  ⟨true, 0, 0, []⟩

end EmulatorHost.Display
