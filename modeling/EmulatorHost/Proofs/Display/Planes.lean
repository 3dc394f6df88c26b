import EmulatorHost.Display.Color
import Mathlib.Data.List.Basic
import Mathlib.Tactic.Common
import Mathlib.Tactic.Linarith

/-!
# The planes of an image

What a packed image becomes: where each pixel is found in the planes, for all sizes, and that no
number is cut off on its way into a byte. A converter that gives up at a read outside of its buffer
(`planarOfPacked?`) never does so on an image of the right length. The main statement is
`converts_every_pixel`.
-/

namespace EmulatorHost.Display

/-! ## Studio range -/

namespace Color

theorem weighted_bounds (weight : Int) (part : UInt8) :
    255 * min weight 0 ≤ weight * part.toNat ∧ weight * part.toNat ≤ 255 * max weight 0 := by
  have hpart := part.toNat_lt
  have hle : (part.toNat : Int) ≤ 255 := by
    omega
  have hnonneg : (0 : Int) ≤ part.toNat := Int.natCast_nonneg _
  -- The sign of the weight says which end is at 0 and which at 255.
  rcases Int.le_total weight 0 with hweight | hweight
  · rw [min_eq_left hweight, max_eq_right hweight]
    constructor <;> nlinarith only [hweight, hle, hnonneg]
  · rw [min_eq_right hweight, max_eq_left hweight]
    constructor <;> nlinarith only [hweight, hle, hnonneg]

/-- What a weighted sum comes to at least and at most, over all colours. -/
theorem weigh_bounds (red green blue shift : Int) (color : Color) :
    (255 * (min red 0 + min green 0 + min blue 0)) / 256 + shift ≤
        weigh red green blue shift color ∧
      weigh red green blue shift color ≤
        (255 * (max red 0 + max green 0 + max blue 0)) / 256 + shift := by
  have hred := weighted_bounds red color.red
  have hgreen := weighted_bounds green color.green
  have hblue := weighted_bounds blue color.blue
  rw [weigh, Int.fdiv_eq_ediv_of_nonneg _ (by decide)]
  constructor <;> omega

variable (color : Color)

theorem luma_bounds : 16 ≤ color.luma ∧ color.luma ≤ 235 :=
  weigh_bounds 66 129 25 16 color

theorem blueDifference_bounds : 16 ≤ color.blueDifference ∧ color.blueDifference ≤ 239 :=
  weigh_bounds (-38) (-74) 112 128 color

theorem redDifference_bounds : 16 ≤ color.redDifference ∧ color.redDifference ≤ 239 :=
  weigh_bounds 112 (-94) (-18) 128 color

end Color

/-- A byte holds a number of eight bits as it is. -/
theorem toNat_lowByte {value : Int} (hlow : 0 ≤ value) (hhigh : value < 256) :
    ((lowByte value).toNat : Int) = value := by
  have hless : (value.emod 256).toNat < UInt8.size := by
    change (value % 256).toNat < 256
    omega
  rw [lowByte, UInt8.toNat_ofNat_of_lt' hless]
  change ((value % 256).toNat : Int) = value
  omega

/-! ## Reading a pixel -/

/-- The colour of the pixel in column `x` and row `y`, if its bytes are in the buffer. -/
def colorAt? (rgb : Array UInt8) (width x y : Nat) : Option Color := do
  let start := 3 * (y * width + x)
  return ⟨← rgb[start]?, ← rgb[start + 1]?, ← rgb[start + 2]?⟩

/-- The pixel in column `x` and row `y` has this colour, as the buffer says at its three bytes. -/
structure HasPixel (rgb : Bytes) (width x y : Nat) (color : Color) : Prop where
  red : rgb[3 * (y * width + x)]? = some color.red
  green : rgb[3 * (y * width + x) + 1]? = some color.green
  blue : rgb[3 * (y * width + x) + 2]? = some color.blue

theorem colorAt?_of_hasPixel {rgb : Bytes} {width x y : Nat} {color : Color}
    (h : HasPixel rgb width x y color) : colorAt? rgb.toArray width x y = some color := by
  simp [colorAt?, h.red, h.green, h.blue]

theorem colorAt_of_hasPixel {rgb : Bytes} {width x y : Nat} {color : Color}
    (h : HasPixel rgb width x y color) : colorAt rgb.toArray width x y = color := by
  simp [colorAt, Array.getD_eq_getD_getElem?, h.red, h.green, h.blue]

theorem cell_lt {rows columns row column : Nat} (hrow : row < rows) (hcolumn : column < columns) :
    row * columns + column < rows * columns := by
  calc
    row * columns + column < row * columns + columns := Nat.add_lt_add_left hcolumn _
    _ = (row + 1) * columns := (Nat.succ_mul row columns).symm
    _ ≤ rows * columns := Nat.mul_le_mul_right columns hrow

/-- The three bytes of each pixel are in a buffer of three bytes a pixel. -/
theorem exists_hasPixel {rgb : Bytes} {width height x y : Nat}
    (hlength : rgb.length = 3 * (width * height)) (hx : x < width) (hy : y < height) :
    ∃ color, HasPixel rgb width x y color := by
  have hpixel := cell_lt hy hx
  have hlast : 3 * (y * width + x) + 2 < rgb.length := by
    rw [hlength, Nat.mul_comm width]
    omega
  exact ⟨⟨rgb[3 * (y * width + x)], rgb[3 * (y * width + x) + 1], rgb[3 * (y * width + x) + 2]⟩,
    List.getElem?_eq_getElem _, List.getElem?_eq_getElem _, List.getElem?_eq_getElem _⟩

/-- A block begins inside of the image, even if it does not end there. -/
theorem mul_lt_of_lt_blocks {size step block : Nat} (hstep : 0 < step)
    (hblock : block < (size + step - 1) / step) : block * step < size := by
  have hfits := (Nat.le_div_iff_mul_le hstep).mp hblock
  rw [Nat.succ_mul] at hfits
  omega

/-! ## One plane -/

theorem length_plane (rgb : Array UInt8) (width height step : Nat) (value : Color → Int) :
    (plane rgb width height step value).length =
      (height + step - 1) / step * ((width + step - 1) / step) := by
  simp [plane, List.length_flatMap]

/-- Rows of the same length, one after another: a cell is found by its row and its column. -/
theorem getElem?_flatMap_range {α : Type} (cell : Nat → Nat → α) {rows columns row column : Nat}
    (hrow : row < rows) (hcolumn : column < columns) :
    ((List.range rows).flatMap fun row => (List.range columns).map (cell row))[
      row * columns + column]? = some (cell row column) := by
  -- On the rows: the cell is in the last one, or in a grid that is one row smaller.
  induction rows with
  | zero =>
      exact absurd hrow (Nat.not_lt_zero row)
  | succ rows ih =>
      have hlength : ((List.range rows).flatMap fun row =>
          (List.range columns).map (cell row)).length = rows * columns := by
        simp [List.length_flatMap]
      rw [List.range_succ, List.flatMap_append]
      rcases Nat.lt_succ_iff_lt_or_eq.mp hrow with hearlier | rfl
      · have hcell := cell_lt hearlier hcolumn
        rw [List.getElem?_append_left (by omega), ih hearlier]
      · rw [List.getElem?_append_right (by omega), hlength, Nat.add_sub_cancel_left]
        simp [hcolumn]

section Plane

variable {rgb : Bytes} {width height step : Nat}

theorem getElem?_plane (value : Color → Int) {row column : Nat} {color : Color}
    (hrow : row < (height + step - 1) / step) (hcolumn : column < (width + step - 1) / step)
    (hpixel : HasPixel rgb width (column * step) (row * step) color) :
    (plane rgb.toArray width height step value)[
      row * ((width + step - 1) / step) + column]? = some (lowByte (value color)) := by
  rw [plane, getElem?_flatMap_range _ hrow hcolumn, colorAt_of_hasPixel hpixel]

/-- A plane from a buffer that is checked at each read: there is none if a byte is missing. -/
def plane? (rgb : Array UInt8) (width height step : Nat) (value : Color → Int) :
    Option Bytes := do
  let rows ← (List.range ((height + step - 1) / step)).mapM fun row =>
    (List.range ((width + step - 1) / step)).mapM fun column => do
      let color ← colorAt? rgb width (column * step) (row * step)
      return lowByte (value color)
  return rows.flatten

theorem mapM_eq_some_map {α β : Type} {items : List α} {read : α → Option β} {result : α → β}
    (hread : ∀ item ∈ items, read item = some (result item)) :
    items.mapM read = some (items.map result) := by
  induction items with
  | nil =>
      rfl
  | cons item items ih =>
      rw [List.forall_mem_cons] at hread
      rw [List.mapM_cons, hread.1, ih hread.2]
      rfl

/-- Every read for a plane of an image of the right length is inside of the buffer. -/
theorem plane?_eq (value : Color → Int) (hlength : rgb.length = 3 * (width * height))
    (hstep : 0 < step) :
    plane? rgb.toArray width height step value =
      some (plane rgb.toArray width height step value) := by
  have hrows : ∀ row ∈ List.range ((height + step - 1) / step),
      ((List.range ((width + step - 1) / step)).mapM fun column => do
        let color ← colorAt? rgb.toArray width (column * step) (row * step)
        return lowByte (value color)) =
      some ((List.range ((width + step - 1) / step)).map fun column =>
        lowByte (value (colorAt rgb.toArray width (column * step) (row * step)))) := by
    intro row hrow
    apply mapM_eq_some_map
    intro column hcolumn
    have hx := mul_lt_of_lt_blocks hstep (List.mem_range.mp hcolumn)
    have hy := mul_lt_of_lt_blocks hstep (List.mem_range.mp hrow)
    rcases exists_hasPixel hlength hx hy with ⟨color, hpixel⟩
    rw [colorAt?_of_hasPixel hpixel, colorAt_of_hasPixel hpixel]
    rfl
  rw [plane?, mapM_eq_some_map hrows]
  exact congrArg some (List.flatMap_def ..).symm

end Plane

/-! ## The image -/

def planarOfPacked? (rgb : Bytes) (width height : Nat) : Option Bytes := do
  let pixels := rgb.toArray
  let luma ← plane? pixels width height 1 Color.luma
  let blue ← plane? pixels width height 2 Color.blueDifference
  let red ← plane? pixels width height 2 Color.redDifference
  return luma ++ blue ++ red

theorem planarOfPacked?_eq {rgb : Bytes} {width height : Nat}
    (hlength : rgb.length = 3 * (width * height)) :
    planarOfPacked? rgb width height = some (planarOfPacked rgb width height) := by
  rw [planarOfPacked?, plane?_eq _ hlength Nat.one_pos, plane?_eq _ hlength Nat.two_pos,
    plane?_eq _ hlength Nat.two_pos]
  rfl

theorem length_plane_one (rgb : Array UInt8) (width height : Nat) (value : Color → Int) :
    (plane rgb width height 1 value).length = width * height := by
  rw [length_plane, Nat.div_one, Nat.div_one, Nat.add_sub_cancel, Nat.add_sub_cancel, Nat.mul_comm]

theorem length_plane_two (rgb : Array UInt8) (width height : Nat) (value : Color → Int) :
    (plane rgb width height 2 value).length = (width + 1) / 2 * ((height + 1) / 2) := by
  rw [length_plane, Nat.mul_comm]
  rfl

theorem length_planarOfPacked (rgb : Bytes) (width height : Nat) :
    (planarOfPacked rgb width height).length =
      width * height + 2 * ((width + 1) / 2 * ((height + 1) / 2)) := by
  unfold planarOfPacked
  dsimp only
  rw [List.length_append, List.length_append, length_plane_one, length_plane_two, length_plane_two,
    Nat.two_mul, Nat.add_assoc]

section Image

variable {rgb : Bytes} {width height : Nat} {color : Color}

theorem getElem?_luma {x y : Nat} (hx : x < width) (hy : y < height)
    (hpixel : HasPixel rgb width x y color) :
    (planarOfPacked rgb width height)[y * width + x]? = some (lowByte color.luma) := by
  have hplace := cell_lt hy hx
  rw [Nat.mul_comm height, ← length_plane_one rgb.toArray width height Color.luma] at hplace
  have hcell : (plane rgb.toArray width height 1 Color.luma)[
      y * ((width + 1 - 1) / 1) + x]? = some (lowByte color.luma) := by
    apply getElem?_plane Color.luma
    · rwa [Nat.div_one]
    · rwa [Nat.div_one]
    · rwa [Nat.mul_one, Nat.mul_one]
  rw [Nat.div_one, Nat.add_sub_cancel] at hcell
  -- The luma plane comes first.
  unfold planarOfPacked
  rw [List.append_assoc, List.getElem?_append_left hplace, hcell]

variable {row column : Nat}

theorem getElem?_chroma (hrow : row < (height + 1) / 2) (hcolumn : column < (width + 1) / 2)
    (hpixel : HasPixel rgb width (2 * column) (2 * row) color) :
    (planarOfPacked rgb width height)[
        width * height + (row * ((width + 1) / 2) + column)]? =
      some (lowByte color.blueDifference) ∧
    (planarOfPacked rgb width height)[
        width * height + (width + 1) / 2 * ((height + 1) / 2) +
          (row * ((width + 1) / 2) + column)]? =
      some (lowByte color.redDifference) := by
  have hplace := cell_lt hrow hcolumn
  rw [Nat.mul_comm ((height + 1) / 2), ← length_plane_two rgb.toArray width height
    Color.blueDifference] at hplace
  have hluma := length_plane_one rgb.toArray width height Color.luma
  rw [Nat.mul_comm 2 column, Nat.mul_comm 2 row] at hpixel
  have hcell : ∀ value, (plane rgb.toArray width height 2 value)[
      row * ((width + 1) / 2) + column]? = some (lowByte (value color)) := by
    intro value
    exact getElem?_plane value hrow hcolumn hpixel
  -- Past the luma plane, and for the red difference past the other chroma plane too.
  unfold planarOfPacked
  constructor
  · rw [List.append_assoc, List.getElem?_append_right (by omega), hluma, Nat.add_sub_cancel_left,
      List.getElem?_append_left hplace, hcell]
  · have hfront : (plane rgb.toArray width height 1 Color.luma ++
        plane rgb.toArray width height 2 Color.blueDifference).length =
        width * height + (width + 1) / 2 * ((height + 1) / 2) := by
      rw [List.length_append, hluma, length_plane_two]
    dsimp only
    rw [List.getElem?_append_right (by omega), hfront, Nat.add_sub_cancel_left, hcell]

end Image

/-- An image of three bytes a pixel is converted without a read outside of its buffer, whatever its
size. Each pixel gives the byte of the luma plane at its own place, and each block of two by two
gives a byte to both chroma planes, from the pixel in its top left corner, which is there also where
the block is not complete. Every colour stays in studio range, and so no number loses anything on
its way into its byte. -/
theorem converts_every_pixel (rgb : Bytes) (width height : Nat)
    (hlength : rgb.length = 3 * (width * height)) :
    let planar := planarOfPacked rgb width height
    let across := (width + 1) / 2
    let down := (height + 1) / 2
    planarOfPacked? rgb width height = some planar ∧
    planar.length = width * height + 2 * (across * down) ∧
    (∀ x y, x < width → y < height → ∃ color byte, HasPixel rgb width x y color ∧
      planar[y * width + x]? = some byte ∧ (byte.toNat : Int) = color.luma) ∧
    (∀ row column, row < down → column < across → ∃ color blue red,
      2 * column < width ∧ 2 * row < height ∧ HasPixel rgb width (2 * column) (2 * row) color ∧
      planar[width * height + (row * across + column)]? = some blue ∧
      (blue.toNat : Int) = color.blueDifference ∧
      planar[width * height + across * down + (row * across + column)]? = some red ∧
      (red.toNat : Int) = color.redDifference) ∧
    (∀ color : Color, (16 ≤ color.luma ∧ color.luma ≤ 235) ∧
      (16 ≤ color.blueDifference ∧ color.blueDifference ≤ 240) ∧
      (16 ≤ color.redDifference ∧ color.redDifference ≤ 240)) := by
  intro planar across down
  refine ⟨planarOfPacked?_eq hlength, length_planarOfPacked rgb width height, ?_, ?_, ?_⟩
  · intro x y hx hy
    rcases exists_hasPixel hlength hx hy with ⟨color, hpixel⟩
    have hbounds := color.luma_bounds
    exact ⟨color, lowByte color.luma, hpixel, getElem?_luma hx hy hpixel,
      toNat_lowByte (by omega) (by omega)⟩
  · intro row column hrow hcolumn
    have hx : 2 * column < width := by
      omega
    have hy : 2 * row < height := by
      omega
    rcases exists_hasPixel hlength hx hy with ⟨color, hpixel⟩
    rcases getElem?_chroma hrow hcolumn hpixel with ⟨hblue, hred⟩
    have hblues := color.blueDifference_bounds
    have hreds := color.redDifference_bounds
    exact ⟨color, lowByte color.blueDifference, lowByte color.redDifference, hx, hy, hpixel,
      hblue, toNat_lowByte (by omega) (by omega), hred, toNat_lowByte (by omega) (by omega)⟩
  · intro color
    have hblues := color.blueDifference_bounds
    have hreds := color.redDifference_bounds
    exact ⟨color.luma_bounds, ⟨hblues.1, by omega⟩, ⟨hreds.1, by omega⟩⟩

/-- Three pixels in a row, red, green and blue: the second block has one pixel only. -/
theorem converts_every_pixel_threeInRow :
    let rgb : Bytes := [255, 0, 0, 0, 255, 0, 0, 0, 255]
    let planar : Bytes := [81, 144, 40, 90, 239, 239, 110]
    rgb.length = 3 * (3 * 1) ∧ planarOfPacked? rgb 3 1 = some planar ∧
      ∃ color blue red, HasPixel rgb 3 2 0 color ∧
        planar[4]? = some blue ∧ (blue.toNat : Int) = color.blueDifference ∧
        planar[6]? = some red ∧ (red.toNat : Int) = color.redDifference := by
  intro rgb planar
  have hplanar : planarOfPacked rgb 3 1 = planar := by
    decide
  rcases converts_every_pixel rgb 3 1 rfl with ⟨hchecked, -, -, hchroma, -⟩
  rw [hplanar] at hchecked hchroma
  rcases hchroma 0 1 (by decide) (by decide) with
    ⟨color, blue, red, -, -, hpixel, hblue, hblues, hred, hreds⟩
  exact ⟨rfl, hchecked, color, blue, red, hpixel, hblue, hblues, hred, hreds⟩

end EmulatorHost.Display
