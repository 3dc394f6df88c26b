import EmulatorHost.Agent.Host
import EmulatorHost.Proofs.Agent.Capture

/-!
# The sizes of displays

A host takes every display that has an area, however large. Two places count the bytes of its frames
in 64 bits: the console, for the shared memory, and the processor of every client, for the frames
that it accepts. The pixels of a display always fit in 64 bits, three bytes for each of them may not.
So both counts are the integer exactly as far as it fits. Beyond that a program with checked
arithmetic stops at both of them, and one without is left at both with what remains of the integer in
64 bits.
-/

namespace EmulatorHost

open Display

/-! ## Checked products -/

namespace Display

theorem product?_eq_some_iff {left right product : UInt64} :
    product? left right = some product ↔ product.toNat = left.toNat * right.toNat := by
  unfold product?
  split
  case isTrue hfits =>
    have hproduct : (left * right).toNat = left.toNat * right.toNat := by
      rw [UInt64.toNat_mul]
      exact Nat.mod_eq_of_lt hfits
    rw [Option.some.injEq, ← UInt64.toNat_inj, hproduct, eq_comm]
  case isFalse hoverflows =>
    -- No word has a value that takes more than a word.
    refine iff_of_false (Option.some_ne_none product).symm ?_
    intro hproduct
    exact hoverflows (hproduct ▸ product.toNat_lt_size)

namespace Frame

variable {width height : UInt32}

theorem area_lt (width height : UInt32) : width.toNat * height.toNat < UInt64.size := by
  calc width.toNat * height.toNat
      ≤ (UInt32.size - 1) * (UInt32.size - 1) :=
        Nat.mul_le_mul (Nat.le_pred_of_lt width.toNat_lt_size)
          (Nat.le_pred_of_lt height.toNat_lt_size)
    _ < UInt64.size := by decide

/-- Of the two products only the second one may take more than 64 bits. -/
theorem checkedByteCount?_eq_some_iff {length : UInt64} :
    checkedByteCount? width height = some length ↔
      length.toNat = 3 * (width.toNat * height.toNat) := by
  have hpixels : product? width.toUInt64 height.toUInt64 =
      some (UInt64.ofNat (width.toNat * height.toNat)) := by
    rw [product?_eq_some_iff, UInt64.toNat_ofNat_of_lt' (area_lt width height),
      UInt32.toNat_toUInt64, UInt32.toNat_toUInt64]
  unfold checkedByteCount?
  rw [hpixels, Option.bind_some, product?_eq_some_iff,
    UInt64.toNat_ofNat_of_lt' (area_lt width height), Nat.mul_comm]
  rfl

theorem checkedByteCount?_eq_none_iff :
    checkedByteCount? width height = none ↔
      UInt64.size ≤ 3 * (width.toNat * height.toNat) := by
  rw [Option.eq_none_iff_forall_ne_some]
  constructor
  · intro hstops
    by_contra hfits
    refine hstops (UInt64.ofNat (3 * (width.toNat * height.toNat))) ?_
    rw [checkedByteCount?_eq_some_iff]
    exact UInt64.toNat_ofNat_of_lt' (Nat.lt_of_not_le hfits)
  · intro hoverflows length hcount
    rw [← checkedByteCount?_eq_some_iff.mp hcount] at hoverflows
    exact absurd length.toNat_lt_size (Nat.not_lt_of_le hoverflows)

theorem checkedByteCount?_of_fits (hfits : 3 * (width.toNat * height.toNat) < UInt64.size) :
    checkedByteCount? width height = some (byteCount width height) := by
  rw [checkedByteCount?_eq_some_iff, toNat_byteCount_of_fits hfits]

/-- What remains of the count in 64 bits is zero for no display that has an area. -/
theorem byteCount_ne_zero (hwidth : width ≠ 0) (hheight : height ≠ 0) :
    byteCount width height ≠ 0 := by
  intro hzero
  have harea : 0 < width.toNat * height.toNat := by
    refine Nat.mul_pos (Nat.pos_of_ne_zero ?_) (Nat.pos_of_ne_zero ?_)
    · rwa [Ne, ← UInt32.toNat_zero, UInt32.toNat_inj]
    · rwa [Ne, ← UInt32.toNat_zero, UInt32.toNat_inj]
  have hremains : 3 * (width.toNat * height.toNat) % UInt64.size = 0 := by
    rw [← toNat_byteCount, hzero]
    rfl
  -- Three has no factor in common with the size of a word, so the pixels would be a multiple of it.
  have hmultiple : UInt64.size ∣ width.toNat * height.toNat :=
    Nat.Coprime.dvd_of_dvd_mul_left (by decide) (Nat.dvd_of_mod_eq_zero hremains)
  exact absurd (Nat.le_of_dvd harea hmultiple) (Nat.not_le_of_lt (area_lt width height))

end Frame

end Display

/-- The console refuses no display that has an area, however large. -/
theorem Console.frameLength_of_area {width height : UInt32} (hwidth : width ≠ 0)
    (hheight : height ≠ 0) :
    Console.frameLength width height = .ok (Frame.byteCount width height) := by
  have hcount : (Frame.byteCount width height == 0) = false :=
    beq_eq_false_iff_ne.mpr (Frame.byteCount_ne_zero hwidth hheight)
  simp only [Console.frameLength, hcount, Bool.false_eq_true, if_false]

namespace Agent

variable {profile : HardwareProfile} {width height : UInt32}

/-! ## The sizes that a host takes -/

/-- Some host launches an emulator with this hardware when it is asked to. -/
def Admitted (profile : HardwareProfile) : Prop :=
  ∃ (host : Host) (rootAdb : Bool), (host.startEmulator ⟨profile, rootAdb⟩).2 = .done (.ok ())

theorem admitted_iff : Admitted profile ↔ profile.lcdWidth ≠ 0 ∧ profile.lcdHeight ≠ 0 := by
  constructor
  · rintro ⟨host, rootAdb, hreply⟩
    unfold Host.startEmulator at hreply
    split at hreply
    case isTrue hempty =>
      cases hreply
    case isFalse harea =>
      simpa using harea
  · rintro ⟨hwidth, hheight⟩
    -- A host on which nothing has happened, with a launcher that never fails.
    refine ⟨.begin [] (.ofReach (.answering [])), false, ?_⟩
    unfold Host.startEmulator
    rw [if_neg (by simp [hwidth, hheight])]
    rfl

/-! ## The counts of a frame's bytes -/

/-- Both places count three bytes for each pixel of a display, and checked arithmetic lets them: the
console for the shared memory, and every processor for the frames that it does not refuse. -/
structure CountsExactly (width height : UInt32) : Prop where
  mapped : ∃ length, Console.checkedFrameLength? width height = some (.ok length) ∧
    length.toNat = 3 * (width.toNat * height.toNat)
  accepted : ∀ {σ : Type} (processor : Processor σ) (data : Bytes) (time : Nat), ∃ outcome,
    processor.checkedProcess? (some ⟨width, height, data⟩) time = some outcome ∧
      (¬ IsBadFrame outcome.result ↔ data.length = 3 * (width.toNat * height.toNat))

/-- Without checks, a processor accepts a frame by what remains of the count in 64 bits. -/
theorem accepts_iff {σ : Type} (processor : Processor σ) (data : Bytes) (time : Nat) :
    ¬ IsBadFrame (processor.process (some ⟨width, height, data⟩) time).result ↔
      data.length = (Frame.byteCount width height).toNat := by
  rw [isBadFrame_process_iff, not_iff_comm]
  constructor
  · intro hlength
    exact ⟨_, rfl, beq_eq_false_iff_ne.mpr hlength⟩
  · rintro ⟨fed, hframe, hincomplete⟩
    cases Option.some.inj hframe
    exact beq_eq_false_iff_ne.mp hincomplete

theorem CountsExactly.of_fits (hwidth : width ≠ 0) (hheight : height ≠ 0)
    (hfits : 3 * (width.toNat * height.toNat) < UInt64.size) : CountsExactly width height where
  mapped := by
    refine ⟨Frame.byteCount width height, ?_, ?_⟩
    · rw [Console.checkedFrameLength?, Frame.checkedByteCount?_of_fits hfits, Option.map_some,
        Console.frameLength_of_area hwidth hheight]
    · exact Frame.toNat_byteCount_of_fits hfits
  accepted := by
    intro σ processor data time
    refine ⟨processor.process (some ⟨width, height, data⟩) time, ?_, ?_⟩
    · simp only [Processor.checkedProcess?, Frame.checkedByteCount?_of_fits hfits, Option.map_some]
    · rw [accepts_iff, Frame.toNat_byteCount_of_fits hfits]

/-- For a display that a host takes, the bytes of a frame are counted exactly if they fit in 64 bits.
If they do not, checked arithmetic stops both the console and every processor. Without checks both
take what remains of the bytes in 64 bits for the length of a frame. -/
theorem countsExactly_iff (profile : HardwareProfile) (hadmitted : Admitted profile) :
    let width := profile.lcdWidth
    let height := profile.lcdHeight
    let bytes := 3 * (width.toNat * height.toNat)
    (CountsExactly width height ↔ bytes < UInt64.size) ∧
    (UInt64.size ≤ bytes →
      Console.checkedFrameLength? width height = none ∧
      ∀ {σ : Type} (processor : Processor σ) (data : Bytes) (time : Nat),
        processor.checkedProcess? (some ⟨width, height, data⟩) time = none) ∧
    ∃ length, Console.frameLength width height = .ok length ∧
      length.toNat = bytes % UInt64.size ∧
      ∀ {σ : Type} (processor : Processor σ) (data : Bytes) (time : Nat),
        ¬ IsBadFrame (processor.process (some ⟨width, height, data⟩) time).result ↔
          data.length = length.toNat := by
  intro width height bytes
  rcases admitted_iff.mp hadmitted with ⟨hwidth, hheight⟩
  refine ⟨⟨?_, CountsExactly.of_fits hwidth hheight⟩, ?_, ?_⟩
  · -- The length that the console has counted is a word, and it is the integer.
    rintro ⟨⟨length, -, hexact⟩, -⟩
    exact hexact.symm.trans_lt length.toNat_lt_size
  · intro hoverflows
    have hstops : Frame.checkedByteCount? width height = none :=
      Frame.checkedByteCount?_eq_none_iff.mpr hoverflows
    refine ⟨?_, ?_⟩
    · rw [Console.checkedFrameLength?, hstops, Option.map_none]
    · intro σ processor data time
      simp only [Processor.checkedProcess?, hstops, Option.map_none]
  · -- Whether it fits or not, both places are left with the same count.
    exact ⟨Frame.byteCount width height, Console.frameLength_of_area hwidth hheight,
      Frame.toNat_byteCount width height, accepts_iff⟩

def largestDisplay : HardwareProfile :=
  ⟨2048, 2, 320, 4294967295, 4294967295⟩

/-- The frames of the largest display would take almost three times as many bytes as 64 bits can
count. -/
theorem countsExactly_iff_largestDisplay :
    Admitted largestDisplay ∧
    UInt64.size ≤ 3 * (4294967295 * 4294967295) ∧
    ¬ CountsExactly 4294967295 4294967295 ∧
    Console.checkedFrameLength? 4294967295 4294967295 = none ∧
    ∃ length, Console.frameLength 4294967295 4294967295 = .ok length ∧
      length.toNat = 18446744047939747843 := by
  have hadmitted : Admitted largestDisplay := admitted_iff.mpr (by decide)
  have hoverflows : UInt64.size ≤ 3 * (4294967295 * 4294967295) := by decide
  rcases countsExactly_iff largestDisplay hadmitted with
    ⟨hexact, hstops, length, hlength, hremains, -⟩
  exact ⟨hadmitted, hoverflows, mt hexact.mp (Nat.not_lt_of_le hoverflows),
    (hstops hoverflows).1, length, hlength, hremains⟩

/-- A display of so many pixels that 13 bytes remain of the bytes of its frames in 64 bits. -/
def wrappedDisplay : HardwareProfile :=
  ⟨2048, 2, 320, 2900561549, 4239809835⟩

/-- A host takes the display. Counting the bytes of its frames stops a program with checked
arithmetic; one without maps 13 bytes for them, and accepts a frame of 13 bytes. -/
theorem wrappedDisplay_not_countsExactly :
    Admitted wrappedDisplay ∧
    ¬ CountsExactly wrappedDisplay.lcdWidth wrappedDisplay.lcdHeight ∧
    Console.checkedFrameLength? 2900561549 4239809835 = none ∧
    Console.frameLength 2900561549 4239809835 = .ok 13 ∧
    3 * (2900561549 * 4239809835) = UInt64.size * 2 + 13 ∧
    ((Processor.new (.raw .rgb888) 0).process
        (some ⟨2900561549, 4239809835, List.replicate 13 0⟩) 0).result =
      .ok [⟨true, 2900561549, 4239809835, List.replicate 13 0⟩] := by
  have hstops : Console.checkedFrameLength? 2900561549 4239809835 = none := rfl
  refine ⟨admitted_iff.mpr (by decide), ?_, hstops, rfl, by decide, rfl⟩
  rintro ⟨⟨length, hlength, -⟩, -⟩
  cases hstops.symm.trans hlength

end Agent

end EmulatorHost
