import EmulatorHost.Display.Processor
import Mathlib.Data.List.Induction

/-!
# Feeding a processor

A processor is fed with frames, or with the absence of one, each at a time of its own. Its codec may
answer differently at any time: an engine that cannot be made now may be made later, and an engine
may yield any packets, or none, or fail. So the behaviour of the codec is given with everything that
a processor is fed with, and what holds of all feedings holds of all codecs, whatever state they
keep and whatever else uses them.

* `Processor.feed` feeds a processor once, `Processor.after` and `Processor.turns` say where a
  sequence of feedings leads and what each of them comes to;
* `Processor.Fed` says in one relation all that a feeding can do.
-/

namespace EmulatorHost.Display

/-- What a processor is fed with: a frame, or that there is no display; when; and how the codec
behaves then. -/
structure Feeding (σ : Type) where
  frame : Option Frame
  time : Nat
  behaviour : Codec σ

structure Turn (σ : Type) where
  feeding : Feeding σ
  outcome : Outcome σ

def Codec.imageFor {σ : Type} (codec : Codec σ) (engine : σ) (frame : Frame) : Bytes :=
  (codec.format engine).convert frame.data frame.width frame.height

/-- The setup for a size: 1000 kilobits and 60 ticks a second, in real time, and so that what is lost
on the way does no lasting harm. -/
def EngineConfig.realtimeFor (width height : UInt32) : EngineConfig where
  width := width
  height := height
  targetBitrateKbps := 1000
  errorResilient := true
  timebase := (1, 60)
  realtime := true

/-- Every engine is set up in this way. -/
theorem EngineConfig.ofSize_eq (width height : UInt32) :
    ofSize width height = realtimeFor width height :=
  rfl

def pixel : Frame :=
  ⟨1, 1, [1, 2, 3]⟩

def pair : Frame :=
  ⟨2, 1, [1, 2, 3, 4, 5, 6]⟩

namespace Processor

variable {σ : Type}

/-- Feeds a processor while its codec behaves as given. The codec as such remains the same. -/
def feed (processor : Processor σ) (feeding : Feeding σ) : Outcome σ :=
  let outcome := { processor with codec := feeding.behaviour }.process feeding.frame feeding.time
  { outcome with processor := { outcome.processor with codec := processor.codec } }

/-- Where a sequence of feedings leads. -/
def after (processor : Processor σ) (feedings : List (Feeding σ)) : Processor σ :=
  feedings.foldl (fun processor feeding => (processor.feed feeding).processor) processor

/-- What a sequence of feedings comes to. -/
def turns (processor : Processor σ) : List (Feeding σ) → List (Turn σ)
  | [] => []
  | feeding :: rest =>
    ⟨feeding, processor.feed feeding⟩ :: (processor.feed feeding).processor.turns rest

/-- The processor has an engine, which is for frames of this size. -/
def Fits (processor : Processor σ) (frame : Frame) : Prop :=
  processor.engine.isSome = true ∧ frame.width = processor.width ∧ frame.height = processor.height

/-! ## What a feeding can do -/

inductive Ready (processor : Processor σ) (behaviour : Codec σ) (frame : Frame) :
    σ → Processor σ → List EngineCall → Prop where
  -- How a processor comes by the engine for a frame: the engine, the processor with it, and what
  -- was asked of the codec.
  | present {engine : σ} (hfits : processor.Fits frame) (hengine : processor.engine = some engine) :
      Ready processor behaviour frame engine processor []
  | made {engine : σ} (hunfit : ¬ processor.Fits frame)
      (hcreate : behaviour.create (.realtimeFor frame.width frame.height) = .ok engine) :
      Ready processor behaviour frame engine
        { processor.resized frame.width frame.height with engine := some engine }
        [.create (.realtimeFor frame.width frame.height)]

/-- What comes of a feeding. There are six ways: a blank, a frame that is not complete, one without
area, an engine that cannot be made, an encoding that fails, and one that succeeds. -/
inductive Fed (processor : Processor σ) : Feeding σ → Outcome σ → Prop where
  | blank {time : Nat} {behaviour : Codec σ} :
      Fed processor ⟨none, time, behaviour⟩ ⟨.ok [Packet.blank], processor.reset, []⟩
  | rejected {frame : Frame} {time : Nat} {behaviour : Codec σ}
      (hincomplete : frame.isComplete = false) :
      Fed processor ⟨some frame, time, behaviour⟩
        ⟨.error (.badFrame frame.width frame.height frame.data.length), processor, []⟩
  | cleared {frame : Frame} {time : Nat} {behaviour : Codec σ} (hcomplete : frame.isComplete = true)
      (hempty : frame.isEmpty = true) :
      Fed processor ⟨some frame, time, behaviour⟩
        ⟨.ok [], processor.resized frame.width frame.height, []⟩
  | unmade {frame : Frame} {time : Nat} {behaviour : Codec σ} {fault : CodecFault}
      (hcomplete : frame.isComplete = true) (harea : frame.isEmpty = false)
      (hunfit : ¬ processor.Fits frame)
      (hcreate : behaviour.create (.realtimeFor frame.width frame.height) = .error fault) :
      Fed processor ⟨some frame, time, behaviour⟩
        ⟨.error (.codec fault), processor.reset, [.create (.realtimeFor frame.width frame.height)]⟩
  | failed {frame : Frame} {time : Nat} {behaviour : Codec σ} {engine later : σ}
      {ready : Processor σ} {calls : List EngineCall} {fault : CodecFault}
      (hcomplete : frame.isComplete = true) (harea : frame.isEmpty = false)
      (hready : processor.Ready behaviour frame engine ready calls)
      (hencode : behaviour.encode engine (behaviour.imageFor engine frame)
        (ready.needsKeyframe time) = (.error fault, later)) :
      Fed processor ⟨some frame, time, behaviour⟩
        ⟨.error (.codec fault), { ready with engine := some later },
          calls ++ [.encode (behaviour.imageFor engine frame) (ready.needsKeyframe time)]⟩
  | encoded {frame : Frame} {time : Nat} {behaviour : Codec σ} {engine later : σ}
      {ready : Processor σ} {calls : List EngineCall} {packets : List Bytes}
      (hcomplete : frame.isComplete = true) (harea : frame.isEmpty = false)
      (hready : processor.Ready behaviour frame engine ready calls)
      (hencode : behaviour.encode engine (behaviour.imageFor engine frame)
        (ready.needsKeyframe time) = (.ok packets, later)) :
      Fed processor ⟨some frame, time, behaviour⟩
        ⟨.ok (packets.map fun data =>
            ⟨ready.needsKeyframe time, frame.width, frame.height, data⟩),
          { ready with
            engine := some later
            frameCount := ready.frameCount + 1
            lastKeyframe := if ready.needsKeyframe time then some time else ready.lastKeyframe },
          calls ++ [.encode (behaviour.imageFor engine frame) (ready.needsKeyframe time)]⟩

variable {processor : Processor σ} {frame : Frame} {time : Nat} {behaviour : Codec σ}

namespace Ready

variable {engine : σ} {ready : Processor σ} {calls : List EngineCall}

theorem fits (h : processor.Ready behaviour frame engine ready calls) :
    ready.engine = some engine ∧ ready.width = frame.width ∧ ready.height = frame.height := by
  cases h with
  | present hfits hengine =>
      exact ⟨hengine, hfits.2.1.symm, hfits.2.2.symm⟩
  | made hunfit hcreate =>
      exact ⟨rfl, rfl, rfl⟩

theorem codec_eq (h : processor.Ready behaviour frame engine ready calls) :
    ready.codec = processor.codec := by
  cases h <;> rfl

end Ready

/-- Without an engine for a frame, a processor goes about it as after a reset. -/
theorem engineFor_of_unfit (hunfit : ¬ processor.Fits frame) :
    processor.engineFor frame = processor.reset.engineFor frame := by
  unfold engineFor
  cases hengine : processor.engine with
  | none =>
      rfl
  | some engine =>
      have hsize : ¬ (frame.width = processor.width ∧ frame.height = processor.height) := by
        intro hsize
        exact hunfit ⟨by rw [hengine]; rfl, hsize⟩
      simp [hsize]
      rfl

/-- The engine for a frame is there, or it is made, or it cannot be made. -/
theorem engineFor_cases (processor : Processor σ) (behaviour : Codec σ) (frame : Frame) :
    (∃ engine ready calls, processor.Ready behaviour frame engine ready calls ∧
      { processor with codec := behaviour }.engineFor frame =
        (.ok engine, { ready with codec := behaviour }, calls)) ∨
    ∃ fault, ¬ processor.Fits frame ∧
      behaviour.create (.realtimeFor frame.width frame.height) = .error fault ∧
      { processor with codec := behaviour }.engineFor frame =
        (.error fault, { processor.reset with codec := behaviour },
          [.create (.realtimeFor frame.width frame.height)]) := by
  by_cases hfits : processor.Fits frame
  · rcases Option.isSome_iff_exists.mp hfits.1 with ⟨engine, hengine⟩
    refine .inl ⟨engine, processor, [], .present hfits hengine, ?_⟩
    simp [engineFor, hengine, hfits.2.1, hfits.2.2]
  · have hunfit : ¬ Fits { processor with codec := behaviour } frame := hfits
    have hfresh := engineFor_of_unfit hunfit
    cases hcreate : behaviour.create (.realtimeFor frame.width frame.height) with
    | error fault =>
        refine .inr ⟨fault, hfits, rfl, hfresh.trans ?_⟩
        simp [engineFor, reset, EngineConfig.ofSize_eq, hcreate]
    | ok engine =>
        refine .inl ⟨engine, _, _, .made hfits hcreate, hfresh.trans ?_⟩
        simp [engineFor, reset, resized, EngineConfig.ofSize_eq, hcreate]

/-- Every feeding comes to one of the six. Proofs about feedings go by these cases. -/
theorem fed (processor : Processor σ) (feeding : Feeding σ) :
    processor.Fed feeding (processor.feed feeding) := by
  rcases feeding with ⟨_ | frame, time, behaviour⟩
  · exact .blank
  cases hcomplete : frame.isComplete with
  | false =>
      simpa [feed, process, hcomplete] using Fed.rejected hcomplete
  | true =>
      cases harea : frame.isEmpty with
      | true =>
          have h : processor.Fed ⟨some frame, time, behaviour⟩ _ := .cleared hcomplete harea
          simpa [feed, process, hcomplete, harea, resized, reset] using h
      | false =>
          -- The engine is there or made, and its encoding decides; or it cannot be made.
          rcases processor.engineFor_cases behaviour frame with
            ⟨engine, ready, calls, hready, hengine⟩ | ⟨fault, hunfit, hcreate, hengine⟩
          · have hneeds : { ready with codec := behaviour }.needsKeyframe time =
                ready.needsKeyframe time := rfl
            have hcodec : ready.codec = processor.codec := hready.codec_eq
            rcases hencode : behaviour.encode engine (behaviour.imageFor engine frame)
              (ready.needsKeyframe time) with ⟨fault | packets, later⟩
            · have h := Fed.failed hcomplete harea hready hencode
              unfold Codec.imageFor at hencode h
              simpa [feed, process, hcomplete, harea, encode, hengine, hneeds, hencode, hcodec]
                using h
            · have h := Fed.encoded hcomplete harea hready hencode
              rw [← hready.fits.2.1, ← hready.fits.2.2] at h
              unfold Codec.imageFor at hencode h
              simpa [feed, process, hcomplete, harea, encode, hengine, hneeds, hencode, hcodec]
                using h
          · simpa [feed, process, hcomplete, harea, encode, hengine, reset] using
              Fed.unmade hcomplete harea hunfit hcreate

theorem codec_process (processor : Processor σ) (frame : Option Frame) (time : Nat) :
    (processor.process frame time).processor.codec = processor.codec := by
  cases frame with
  | none =>
      rfl
  | some frame =>
      simp only [process]
      split
      · rfl
      split
      · rfl
      rcases processor.engineFor_cases processor.codec frame with
        ⟨engine, ready, calls, -, hengine⟩ | ⟨fault, -, -, hengine⟩
      · change processor.engineFor frame = _ at hengine
        simp only [encode, hengine]
        split <;> rfl
      · change processor.engineFor frame = _ at hengine
        simp only [encode, hengine]

/-- Feeding is processing, when the codec behaves as it is. -/
theorem feed_eq_process (processor : Processor σ) (frame : Option Frame) (time : Nat) :
    processor.feed ⟨frame, time, processor.codec⟩ = processor.process frame time := by
  have hcodec := processor.codec_process frame time
  change { processor.process frame time with
    processor := { (processor.process frame time).processor with codec := processor.codec } } = _
  generalize processor.process frame time = outcome at hcodec ⊢
  rw [← hcodec]

/-! ## Sequences of feedings -/

theorem turns_append (processor : Processor σ) (feedings rest : List (Feeding σ)) :
    processor.turns (feedings ++ rest) =
      processor.turns feedings ++ (processor.after feedings).turns rest := by
  induction feedings generalizing processor with
  | nil =>
      rfl
  | cons feeding feedings ih =>
      exact congrArg (List.cons _) (ih (processor.feed feeding).processor)

theorem after_append (processor : Processor σ) (feedings rest : List (Feeding σ)) :
    processor.after (feedings ++ rest) = (processor.after feedings).after rest :=
  List.foldl_append

/-- What holds at the beginning, and is kept by every feeding, holds after any number of them. -/
theorem run_induction {motive : List (Feeding σ) → Processor σ → List (Turn σ) → Prop}
    {processor : Processor σ} (hbegin : motive [] processor [])
    (hfeed : ∀ {feedings reached turns feeding outcome}, motive feedings reached turns →
      reached.Fed feeding outcome →
      motive (feedings ++ [feeding]) outcome.processor (turns ++ [⟨feeding, outcome⟩]))
    (feedings : List (Feeding σ)) :
    motive feedings (processor.after feedings) (processor.turns feedings) := by
  -- The turns grow at their end, so the induction takes the last feeding off.
  induction feedings using List.reverseRecOn with
  | nil =>
      exact hbegin
  | append_singleton feedings feeding ih =>
      rw [turns_append, after_append]
      exact hfeed ih ((processor.after feedings).fed feeding)

end Processor

end EmulatorHost.Display
