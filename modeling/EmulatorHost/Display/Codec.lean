import EmulatorHost.Display.Color
import EmulatorHost.Display.Error

/-!
# Codecs

A codec makes an engine for a size, and an engine turns images into packets. Engines keep a state,
which a failed encoding may change too.
-/

namespace EmulatorHost.Display

inductive PixelFormat where
  -- Red, green and blue, packed.
  | rgb888
  -- Luma and quartered chroma, in planes.
  | i420
deriving DecidableEq, Repr, Inhabited

namespace PixelFormat

def name : PixelFormat → String
  | rgb888 => "Rgb888"
  | i420 => "I420"

def convert (format : PixelFormat) (rgb : Bytes) (width height : UInt32) : Bytes :=
  match format with
  | rgb888 => rgb
  | i420 => planarOfPacked rgb width.toNat height.toNat

end PixelFormat

structure EngineConfig where
  width : UInt32
  height : UInt32
  targetBitrateKbps : Nat := 1000
  errorResilient : Bool := true
  timebase : Nat × Nat := (1, 60)
  realtime : Bool := true
deriving DecidableEq, Repr, Inhabited

def EngineConfig.ofSize (width height : UInt32) : EngineConfig :=
  { width, height }

structure Codec (σ : Type) where
  -- Whether any engine can ever be made.
  check : Except CodecFault Unit
  create : EngineConfig → Except CodecFault σ
  format : σ → PixelFormat
  -- Encodes an image, as a keyframe or not, into any number of packets.
  encode : σ → Bytes → Bool → Except CodecFault (List Bytes) × σ

namespace Codec

/-- Passes every image through unchanged, as one packet. -/
def raw (format : PixelFormat) : Codec Unit where
  check := .ok ()
  create _ := .ok ()
  format _ := format
  encode _ image _ := (.ok [image], ())

/-- Stands for a codec that is not part of the program. -/
def unavailable (name : String) : Codec Unit where
  check := .error (.unsupported name)
  create _ := .error (.unsupported name)
  format _ := .rgb888
  encode _ _ _ := (.error (.unsupported name), ())

/-- The codec that needs an engine which this program does not include. -/
def vp8 : Codec Unit :=
  unavailable "VP8"

end Codec

end EmulatorHost.Display
