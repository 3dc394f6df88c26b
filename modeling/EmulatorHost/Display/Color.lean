import EmulatorHost.Bytes

/-!
# Colour conversion

Packed red, green and blue to planar luma and chroma, in studio range. Luma is taken from each
pixel, chroma from the top left pixel of each block of two by two; blocks at the right and lower
edge may be incomplete.
-/

namespace EmulatorHost.Display

structure Color where
  red : UInt8
  green : UInt8
  blue : UInt8
deriving DecidableEq, Repr, Inhabited

namespace Color

/-- A weighted sum of the three parts, scaled down by 256 toward minus infinity, and shifted. -/
def weigh (red green blue shift : Int) (color : Color) : Int :=
  Int.fdiv (red * color.red.toNat + green * color.green.toNat + blue * color.blue.toNat) 256 + shift

def luma : Color → Int :=
  weigh 66 129 25 16

def blueDifference : Color → Int :=
  weigh (-38) (-74) 112 128

def redDifference : Color → Int :=
  weigh 112 (-94) (-18) 128

end Color

def lowByte (value : Int) : UInt8 :=
  UInt8.ofNat (value.emod 256).toNat

/-- The colour of the pixel in column `x` and row `y`. -/
def colorAt (rgb : Array UInt8) (width x y : Nat) : Color :=
  let start := 3 * (y * width + x)
  ⟨rgb.getD start 0, rgb.getD (start + 1) 0, rgb.getD (start + 2) 0⟩

/-- A plane with one byte per block of `step` by `step` pixels, from the block's top left pixel. -/
def plane (rgb : Array UInt8) (width height step : Nat) (value : Color → Int) : Bytes :=
  (List.range ((height + step - 1) / step)).flatMap fun row =>
    (List.range ((width + step - 1) / step)).map fun column =>
      lowByte (value (colorAt rgb width (column * step) (row * step)))

def planarOfPacked (rgb : Bytes) (width height : Nat) : Bytes :=
  let pixels := rgb.toArray
  plane pixels width height 1 Color.luma ++ plane pixels width height 2 Color.blueDifference ++
    plane pixels width height 2 Color.redDifference

end EmulatorHost.Display
