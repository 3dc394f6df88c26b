import EmulatorHost.Proofs.Display.Keyframes
import EmulatorHost.Proofs.Display.Planes

/-!
# The engine of a processor

Whatever a processor has been fed with, its engine has been created for the size that the processor
has, and that size has an area; without an engine nothing has been encoded. `Sound` is this
invariant. From it follows that an engine is only handed images of the size that it was created for,
each with as many bytes as its layout takes.
-/

namespace EmulatorHost.Display

variable {σ : Type}

/-! ## The bytes of an image -/

/-- How many bytes an image takes in this layout. Packed pixels are counted as in a frame, in 64-bit
arithmetic; the blocks of the chroma planes at the edges may be incomplete. -/
def PixelFormat.byteCount (format : PixelFormat) (width height : UInt32) : Nat :=
  match format with
  | rgb888 => (Frame.byteCount width height).toNat
  | i420 => width.toNat * height.toNat +
      2 * ((width.toNat + 1) / 2 * ((height.toNat + 1) / 2))

theorem Frame.toNat_byteCount (width height : UInt32) :
    (Frame.byteCount width height).toNat = 3 * (width.toNat * height.toNat) % UInt64.size := by
  unfold Frame.byteCount
  rw [UInt64.toNat_mul, UInt64.toNat_mul, UInt32.toNat_toUInt64, UInt32.toNat_toUInt64,
    Nat.mod_mul_mod, Nat.mul_comm 3]
  rfl

theorem Frame.toNat_byteCount_of_fits {width height : UInt32}
    (hfits : 3 * (width.toNat * height.toNat) < UInt64.size) :
    (Frame.byteCount width height).toNat = 3 * (width.toNat * height.toNat) := by
  rw [Frame.toNat_byteCount, Nat.mod_eq_of_lt hfits]

/-- The engine has been created with this setup by one of the codecs, and has only encoded since. -/
inductive MadeFor (codecs : List (Codec σ)) (config : EngineConfig) : σ → Prop where
  | created {codec : Codec σ} {engine : σ} (hcodec : codec ∈ codecs)
      (hcreate : codec.create config = .ok engine) : MadeFor codecs config engine
  | encoded {codec : Codec σ} {engine : σ} (hcodec : codec ∈ codecs)
      (hmade : MadeFor codecs config engine) (image : Bytes) (keyframe : Bool) :
      MadeFor codecs config (codec.encode engine image keyframe).2

theorem MadeFor.mono {codecs more : List (Codec σ)} {config : EngineConfig} {engine : σ}
    (h : MadeFor codecs config engine) (hmore : codecs ⊆ more) : MadeFor more config engine := by
  induction h with
  | created hcodec hcreate =>
      exact .created (hmore hcodec) hcreate
  | encoded hcodec hmade image keyframe ih =>
      exact .encoded (hmore hcodec) ih image keyframe

/-- What holds of every processor whose codec has behaved in one of these ways at a time. -/
structure Sound (codecs : List (Codec σ)) (processor : Processor σ) : Prop where
  engine : ∀ engine, processor.engine = some engine → processor.width ≠ 0 ∧ processor.height ≠ 0 ∧
    MadeFor codecs (.realtimeFor processor.width processor.height) engine
  idle : processor.engine = none → processor.frameCount = 0 ∧ processor.lastKeyframe = none
  keyframe : 0 < processor.frameCount → processor.lastKeyframe.isSome = true

namespace Sound

variable {codecs more : List (Codec σ)} {processor reached ready : Processor σ} {frame : Frame}
  {behaviour : Codec σ} {engine : σ} {calls : List EngineCall}

theorem mono (h : Sound codecs processor) (hmore : codecs ⊆ more) : Sound more processor where
  engine := by
    intro engine hengine
    rcases h.engine engine hengine with ⟨hwidth, hheight, hmade⟩
    exact ⟨hwidth, hheight, hmade.mono hmore⟩
  idle := h.idle
  keyframe := h.keyframe

/-- A processor that has been reset is sound whatever its size. -/
theorem of_idle (hengine : reached.engine = none) (hcount : reached.frameCount = 0)
    (hlast : reached.lastKeyframe = none) : Sound codecs reached where
  engine := by
    intro engine hsome
    rw [hengine] at hsome
    cases hsome
  idle := by
    intro _
    exact ⟨hcount, hlast⟩
  keyframe := by
    intro hpos
    exact absurd hcount (Nat.ne_of_gt hpos)

/-- The engine that is ready for a frame is for its size. -/
theorem madeFor (h : Sound codecs processor)
    (hready : processor.Ready behaviour frame engine ready calls) :
    MadeFor (codecs ++ [behaviour]) (.realtimeFor frame.width frame.height) engine := by
  cases hready with
  | present hfits hengine =>
      rw [hfits.2.1, hfits.2.2]
      exact (h.engine engine hengine).2.2.mono (List.subset_append_left _ _)
  | made hunfit hcreate =>
      exact .created (List.mem_append_right _ (List.mem_singleton_self _)) hcreate

/-- After an engine has been asked, whether it has failed or not. -/
theorem served (h : Sound codecs processor) (harea : frame.isEmpty = false)
    (hready : processor.Ready behaviour frame engine ready calls) (image : Bytes) (keyframe : Bool)
    (hengine : reached.engine = some (behaviour.encode engine image keyframe).2)
    (hwidth : reached.width = ready.width) (hheight : reached.height = ready.height)
    (hlast : 0 < reached.frameCount → reached.lastKeyframe.isSome = true) :
    Sound (codecs ++ [behaviour]) reached where
  engine := by
    intro later hlater
    rw [hengine, Option.some.injEq] at hlater
    rw [hwidth, hheight, hready.fits.2.1, hready.fits.2.2, ← hlater]
    have hsize : frame.width ≠ 0 ∧ frame.height ≠ 0 := by
      simpa [Frame.isEmpty] using harea
    refine ⟨hsize.1, hsize.2, ?_⟩
    exact .encoded (List.mem_append_right _ (List.mem_singleton_self _)) (h.madeFor hready) _ _
  idle := by
    intro hnone
    rw [hengine] at hnone
    cases hnone
  keyframe := hlast

/-- The processor with its engine ready still has the time of the last keyframe. -/
theorem ready_keyframe (h : Sound codecs processor)
    (hready : processor.Ready behaviour frame engine ready calls) (hpos : 0 < ready.frameCount) :
    ready.lastKeyframe.isSome = true := by
  rw [hready.lastKeyframe_eq hpos]
  exact h.keyframe (hready.frameCount_pos_iff.mp hpos).2

/-- Every feeding keeps a processor sound. -/
theorem feed (h : Sound codecs processor) {feeding : Feeding σ} {outcome : Outcome σ}
    (hfed : processor.Fed feeding outcome) :
    Sound (codecs ++ [feeding.behaviour]) outcome.processor := by
  cases hfed with
  | blank =>
      exact of_idle rfl rfl rfl
  | rejected hincomplete =>
      exact h.mono (List.subset_append_left _ _)
  | cleared hcomplete hempty =>
      exact of_idle rfl rfl rfl
  | unmade hcomplete harea hunfit hcreate =>
      exact of_idle rfl rfl rfl
  | @failed frame time behaviour engine later ready calls fault hcomplete harea hready hencode =>
      have hkeyframe := h.ready_keyframe hready
      apply h.served harea hready (behaviour.imageFor engine frame) (ready.needsKeyframe time)
      · rw [hencode]
      · rfl
      · rfl
      · exact hkeyframe
  | @encoded frame time behaviour engine later ready calls packets hcomplete harea hready hencode =>
      apply h.served harea hready (behaviour.imageFor engine frame) (ready.needsKeyframe time)
      · rw [hencode]
      · rfl
      · rfl
      · intro _
        dsimp only
        split
        · rfl
        · -- No keyframe is needed, so this is not the first frame.
          rename_i hplain
          apply h.ready_keyframe hready
          apply Nat.pos_of_ne_zero
          intro hfirst
          exact hplain ((ready.needsKeyframe_iff time).mpr (.inl hfirst))

theorem of_run (codec : Codec σ) (interval : Nat) (feedings : List (Feeding σ)) :
    Sound (feedings.map Feeding.behaviour) ((Processor.new codec interval).after feedings) :=
  Processor.run_induction
    (motive := fun feedings reached _ => Sound (feedings.map Feeding.behaviour) reached)
    (of_idle rfl rfl rfl)
    (fun h hfed => by
      rw [List.map_append]
      exact h.feed hfed)
    feedings

end Sound

/-! ## The exits of a feeding -/

namespace Processor

variable {processor : Processor σ} {feeding : Feeding σ} {outcome : Outcome σ}

theorem Fed.codec_eq (h : processor.Fed feeding outcome) :
    outcome.processor.codec = processor.codec := by
  cases h with
  | failed hcomplete harea hready hencode =>
      exact hready.codec_eq
  | encoded hcomplete harea hready hencode =>
      exact hready.codec_eq
  | _ =>
      rfl

section Calls

variable {frame : Frame} {behaviour : Codec σ} {engine : σ} {ready : Processor σ}
  {calls : List EngineCall} {image image' : Bytes} {flag flag' : Bool}

end Calls

end Processor

end EmulatorHost.Display
