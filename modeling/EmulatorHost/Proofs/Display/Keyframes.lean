import EmulatorHost.Proofs.Display.Feeding
import Mathlib.Data.List.DropRight

/-!
# Keyframes

Which frames are encoded as keyframes depends on all that a processor has been fed with before. This
module says it from the turns alone: `since` is the part of the turns after the latest start of the
encoding of frames of one size, `lastKeyframe?` the time of the last keyframe, and `KeyframeDue` the
rule. `Keeps` ties the three fields that the processor keeps to the turns, after any feedings, and
`encodes_keyframes_when_due` says that the rule is kept.
-/

namespace EmulatorHost.Display

variable {σ : Type}

/-! ## What can be seen of a turn -/

def EngineCall.flag? : EngineCall → Option Bool
  | create _ => none
  | encode _ keyframe => some keyframe

namespace Outcome

def flags (outcome : Outcome σ) : List Bool :=
  outcome.calls.filterMap EngineCall.flag?

/-- The flag of the encoding, if one succeeds. -/
def encodedAs? (outcome : Outcome σ) : Option Bool :=
  match outcome.result with
  | .ok _ => outcome.flags.head?
  | .error _ => none

def packets (outcome : Outcome σ) : List Packet :=
  match outcome.result with
  | .ok packets => packets
  | .error _ => []

end Outcome

/-- The encoding of frames of the size of this one starts anew with what is fed: with a blank, and
with a complete frame that has no area or another size. -/
def Feeding.renews (feeding : Feeding σ) (frame : Frame) : Bool :=
  match feeding.frame with
  | none => true
  | some other =>
    other.isComplete &&
      (other.isEmpty || other.width != frame.width || other.height != frame.height)

def Turn.keyframeAt? (turn : Turn σ) : Option Nat :=
  if turn.outcome.encodedAs? = some true then some turn.feeding.time else none

/-- The turns since the latest start of the encoding of frames of the size of this one. -/
def since (frame : Frame) (turns : List (Turn σ)) : List (Turn σ) :=
  turns.rtakeWhile fun turn => !turn.feeding.renews frame

/-- When the last keyframe was encoded. -/
def lastKeyframe? (turns : List (Turn σ)) : Option Nat :=
  turns.reverse.findSome? Turn.keyframeAt?

/-- A frame of this size has been encoded since the latest start. -/
def EncodedSince (frame : Frame) (turns : List (Turn σ)) : Prop :=
  ∃ turn ∈ since frame turns, turn.outcome.encodedAs?.isSome = true

/-- A frame is to become a keyframe: no frame has been encoded since the latest start, or there is an
interval, and more than it has passed since the last keyframe. -/
def KeyframeDue (interval : Nat) (turns : List (Turn σ)) (frame : Frame) (time : Nat) : Prop :=
  ¬ EncodedSince frame turns ∨
    0 < interval ∧ ∃ last, lastKeyframe? turns = some last ∧ interval < time - last

/-! ## One turn more -/

theorem since_concat (frame : Frame) (turns : List (Turn σ)) (turn : Turn σ) :
    since frame (turns ++ [turn]) =
      if turn.feeding.renews frame then [] else since frame turns ++ [turn] := by
  unfold since
  cases hrenews : turn.feeding.renews frame <;> simp [hrenews]

theorem encodedSince_concat {frame : Frame} {turns : List (Turn σ)} {turn : Turn σ} :
    EncodedSince frame (turns ++ [turn]) ↔ turn.feeding.renews frame = false ∧
      (EncodedSince frame turns ∨ turn.outcome.encodedAs?.isSome = true) := by
  unfold EncodedSince
  rw [since_concat]
  cases turn.feeding.renews frame <;> simp [or_and_right, exists_or]

theorem findSome?_reverse_concat {α : Type} (see : Turn σ → Option α) (turns : List (Turn σ))
    (turn : Turn σ) : (turns ++ [turn]).reverse.findSome? see =
      (see turn).or (turns.reverse.findSome? see) := by
  rw [List.reverse_append, List.reverse_singleton, List.singleton_append, List.findSome?_cons]
  cases see turn <;> rfl

theorem lastKeyframe?_concat (turns : List (Turn σ)) (turn : Turn σ) :
    lastKeyframe? (turns ++ [turn]) = turn.keyframeAt?.or (lastKeyframe? turns) :=
  findSome?_reverse_concat Turn.keyframeAt? turns turn

/-- A complete frame with an area starts anew the encoding of all frames but those of its size. -/
theorem renews_of_area {frame other : Frame} {time : Nat} {behaviour : Codec σ}
    (hcomplete : other.isComplete = true) (harea : other.isEmpty = false) :
    Feeding.renews ⟨some other, time, behaviour⟩ frame = false ↔
      other.width = frame.width ∧ other.height = frame.height := by
  simp [Feeding.renews, hcomplete, harea]

namespace Processor

variable {processor : Processor σ} {frame : Frame} {time : Nat} {behaviour : Codec σ}

namespace Ready

variable {engine : σ} {ready : Processor σ} {calls : List EngineCall}

theorem flags_eq (h : processor.Ready behaviour frame engine ready calls) (image : Bytes)
    (flag : Bool) :
    (calls ++ [EngineCall.encode image flag]).filterMap EngineCall.flag? = [flag] := by
  cases h <;> rfl

/-- A new engine has encoded nothing. -/
theorem frameCount_pos_iff (h : processor.Ready behaviour frame engine ready calls) :
    0 < ready.frameCount ↔ processor.Fits frame ∧ 0 < processor.frameCount := by
  cases h with
  | present hfits hengine =>
      exact (and_iff_right hfits).symm
  | made hunfit hcreate =>
      exact iff_of_false (Nat.lt_irrefl 0) (fun hfits => hunfit hfits.1)

theorem interval_eq (h : processor.Ready behaviour frame engine ready calls) :
    ready.interval = processor.interval := by
  cases h <;> rfl

theorem lastKeyframe_eq (h : processor.Ready behaviour frame engine ready calls)
    (hcount : 0 < ready.frameCount) : ready.lastKeyframe = processor.lastKeyframe := by
  cases h with
  | present hfits hengine =>
      rfl
  | made hunfit hcreate =>
      exact absurd hcount (Nat.lt_irrefl 0)

/-- The engine that is ready is for the size of its frame alone. -/
theorem fits_iff (h : processor.Ready behaviour frame engine ready calls) {reached : Processor σ}
    {later : σ} (hengine : reached.engine = some later) (hwidth : reached.width = ready.width)
    (hheight : reached.height = ready.height) (other : Frame) :
    reached.Fits other ↔ frame.width = other.width ∧ frame.height = other.height := by
  unfold Fits
  rw [hengine, hwidth, hheight, h.fits.2.1, h.fits.2.2]
  exact (and_iff_right rfl).trans (and_congr eq_comm eq_comm)

end Ready

theorem needsKeyframe_iff (processor : Processor σ) (now : Nat) :
    processor.needsKeyframe now = true ↔ processor.frameCount = 0 ∨
      ∃ interval, processor.interval = some interval ∧
        ∀ last, processor.lastKeyframe = some last → interval < now - last := by
  unfold needsKeyframe
  rcases processor.interval with _ | interval <;> rcases processor.lastKeyframe with _ | last <;>
    simp

end Processor

/-! ## What a processor keeps of the turns -/

structure Keeps (interval : Nat) (turns : List (Turn σ)) (processor : Processor σ) : Prop where
  interval_eq : processor.interval = if interval = 0 then none else some interval
  encoded_iff : ∀ frame, EncodedSince frame turns ↔
    processor.Fits frame ∧ 0 < processor.frameCount
  keyframe : 0 < processor.frameCount →
    ∃ last, processor.lastKeyframe = some last ∧ lastKeyframe? turns = some last
  started : ∀ frame, EncodedSince frame turns →
    ∃ turn ∈ since frame turns, turn.outcome.encodedAs? = some true

namespace Keeps

variable {interval : Nat} {turns : List (Turn σ)} {processor : Processor σ} {frame : Frame}
  {behaviour : Codec σ} {engine : σ} {ready : Processor σ} {calls : List EngineCall}

theorem of_new (codec : Codec σ) (interval : Nat) :
    Keeps interval [] (Processor.new codec interval) where
  interval_eq := rfl
  encoded_iff := by
    intro frame
    simp [EncodedSince, since, Processor.new]
  keyframe := by
    intro hcount
    exact absurd hcount (Nat.lt_irrefl 0)
  started := by
    intro frame hencoded
    simp [EncodedSince, since] at hencoded

/-- The engine for a frame has encoded something exactly if a frame of that size has been encoded
since the latest start. -/
theorem ready_iff (h : Keeps interval turns processor)
    (hready : processor.Ready behaviour frame engine ready calls) {other : Frame}
    (hsize : frame.width = other.width ∧ frame.height = other.height) :
    0 < ready.frameCount ↔ EncodedSince other turns := by
  rw [hready.frameCount_pos_iff, h.encoded_iff]
  unfold Processor.Fits
  rw [hsize.1, hsize.2]

/-- The processor asks for a keyframe exactly when one is due. -/
theorem needsKeyframe_iff (h : Keeps interval turns processor)
    (hready : processor.Ready behaviour frame engine ready calls) (time : Nat) :
    ready.needsKeyframe time = true ↔ KeyframeDue interval turns frame time := by
  rw [Processor.needsKeyframe_iff, hready.interval_eq, h.interval_eq, KeyframeDue,
    ← h.ready_iff hready ⟨rfl, rfl⟩]
  rcases Nat.eq_zero_or_pos ready.frameCount with hnone | hsome
  · exact iff_of_true (.inl hnone) (.inl (Nat.not_lt.mpr (Nat.le_of_eq hnone)))
  · -- Since a frame has been encoded, there is a last keyframe, and the processor has its time.
    rcases h.keyframe (hready.frameCount_pos_iff.mp hsome).2 with ⟨last, hlast, hturns⟩
    rw [hready.lastKeyframe_eq hsome, hlast, hturns]
    rcases Nat.eq_zero_or_pos interval with rfl | hinterval
    · simp [Nat.ne_of_gt hsome]
    · simp [Nat.ne_of_gt hsome, hsome, hinterval, Nat.ne_of_gt hinterval]

/-- After a reset no frame of any size counts as encoded. -/
theorem idle (h : Keeps interval turns processor) {reached : Processor σ} {later : List (Turn σ)}
    (hinterval : reached.interval = processor.interval) (hcount : reached.frameCount = 0)
    (hnothing : ∀ frame, ¬ EncodedSince frame later) :
    Keeps interval later reached where
  interval_eq := hinterval.trans h.interval_eq
  encoded_iff := by
    intro frame
    refine iff_of_false (hnothing frame) ?_
    rintro ⟨-, hpos⟩
    exact Nat.ne_of_gt hpos hcount
  keyframe := by
    intro hpos
    exact absurd hcount (Nat.ne_of_gt hpos)
  started := by
    intro frame hencoded
    exact absurd hencoded (hnothing frame)

/-- After an engine has been asked, whether it has failed or not: only a success counts, and the
first one is a keyframe. -/
theorem served (h : Keeps interval turns processor) {time : Nat} {outcome : Outcome σ}
    (hcomplete : frame.isComplete = true) (harea : frame.isEmpty = false)
    (hready : processor.Ready behaviour frame engine ready calls) {reached : Processor σ}
    (hinterval : reached.interval = ready.interval)
    (hfits : ∀ other, reached.Fits other ↔
      frame.width = other.width ∧ frame.height = other.height)
    (hcount : 0 < reached.frameCount ↔
      0 < ready.frameCount ∨ outcome.encodedAs?.isSome = true)
    (hlast : reached.lastKeyframe =
      if outcome.encodedAs? = some true then some time else ready.lastKeyframe)
    (hfirst : ready.frameCount = 0 → outcome.encodedAs?.isSome = true →
      outcome.encodedAs? = some true) :
    Keeps interval (turns ++ [⟨⟨some frame, time, behaviour⟩, outcome⟩]) reached where
  interval_eq := hinterval.trans (hready.interval_eq.trans h.interval_eq)
  encoded_iff := by
    intro other
    rw [encodedSince_concat, renews_of_area hcomplete harea, hfits, hcount]
    apply and_congr_right
    intro hsize
    rw [h.ready_iff hready hsize]
  keyframe := by
    intro hpos
    rw [hlast, lastKeyframe?_concat, Turn.keyframeAt?]
    dsimp only
    split
    · exact ⟨time, rfl, rfl⟩
    · -- No keyframe now, so this is not the first frame, and the last keyframe remains.
      rename_i hother
      have hsome : 0 < ready.frameCount := by
        rcases hcount.mp hpos with hbefore | hnow
        · exact hbefore
        · exact Nat.pos_of_ne_zero fun hnone => hother (hfirst hnone hnow)
      rcases h.keyframe (hready.frameCount_pos_iff.mp hsome).2 with ⟨last, hkept, hturns⟩
      exact ⟨last, (hready.lastKeyframe_eq hsome).trans hkept, hturns⟩
  started := by
    intro other hencoded
    rw [encodedSince_concat] at hencoded
    rcases hencoded with ⟨hsame, hencoded⟩
    rw [since_concat, hsame]
    by_cases hbefore : EncodedSince other turns
    · rcases h.started other hbefore with ⟨turn, hturn, hkeyframe⟩
      exact ⟨turn, List.mem_append_left _ hturn, hkeyframe⟩
    · have hsize := (renews_of_area hcomplete harea).mp hsame
      have hnone : ready.frameCount = 0 :=
        Nat.eq_zero_of_not_pos (mt (h.ready_iff hready hsize).mp hbefore)
      refine ⟨_, List.mem_append_right _ (List.mem_singleton_self _), ?_⟩
      exact hfirst hnone (hencoded.resolve_left hbefore)

/-- A frame that is not complete changes nothing. -/
theorem rejected (h : Keeps interval turns processor) {time : Nat} {outcome : Outcome σ}
    (hincomplete : frame.isComplete = false) (hnothing : outcome.encodedAs? = none) :
    Keeps interval (turns ++ [⟨⟨some frame, time, behaviour⟩, outcome⟩]) processor where
  interval_eq := h.interval_eq
  encoded_iff := by
    intro other
    rw [← h.encoded_iff, encodedSince_concat, hnothing]
    simp [Feeding.renews, hincomplete]
  keyframe := by
    intro hpos
    rw [lastKeyframe?_concat, Turn.keyframeAt?, hnothing]
    exact h.keyframe hpos
  started := by
    intro other hencoded
    rw [encodedSince_concat, hnothing] at hencoded
    rcases hencoded with ⟨hsame, hbefore | hnow⟩
    · rcases h.started other hbefore with ⟨turn, hturn, hkeyframe⟩
      rw [since_concat, hsame]
      exact ⟨turn, List.mem_append_left _ hturn, hkeyframe⟩
    · cases hnow

/-- Every feeding keeps the agreement. -/
theorem feed (h : Keeps interval turns processor) {feeding : Feeding σ} {outcome : Outcome σ}
    (hfed : processor.Fed feeding outcome) :
    Keeps interval (turns ++ [⟨feeding, outcome⟩]) outcome.processor := by
  cases hfed with
  | blank =>
      refine h.idle rfl rfl ?_
      intro frame hencoded
      cases (encodedSince_concat.mp hencoded).1
  | rejected hincomplete =>
      exact h.rejected hincomplete rfl
  | cleared hcomplete hempty =>
      refine h.idle rfl rfl ?_
      intro frame hencoded
      have hrenews := (encodedSince_concat.mp hencoded).1
      simp [Feeding.renews, hcomplete, hempty] at hrenews
  | unmade hcomplete harea hunfit hcreate =>
      refine h.idle rfl rfl ?_
      intro other hencoded
      rcases encodedSince_concat.mp hencoded with ⟨hsame, hbefore | hnow⟩
      · -- If a frame of this size had been encoded, its engine would still be there.
        have hsize := (renews_of_area hcomplete harea).mp hsame
        have hfits := ((h.encoded_iff other).mp hbefore).1
        exact hunfit ⟨hfits.1, hsize.1.trans hfits.2.1, hsize.2.trans hfits.2.2⟩
      · cases hnow
  | failed hcomplete harea hready hencode =>
      refine h.served hcomplete harea hready rfl (hready.fits_iff rfl rfl rfl) ?_ rfl ?_
      · exact (or_iff_left Bool.false_ne_true).symm
      · intro _ hnow
        cases hnow
  | @encoded frame time behaviour engine later ready calls packets hcomplete harea hready hencode =>
      have hflag : Outcome.encodedAs?
          ⟨.ok (packets.map fun data => ⟨ready.needsKeyframe time, frame.width, frame.height, data⟩),
            { ready with
              engine := some later
              frameCount := ready.frameCount + 1
              lastKeyframe := if ready.needsKeyframe time then some time else ready.lastKeyframe },
            calls ++ [.encode (behaviour.imageFor engine frame) (ready.needsKeyframe time)]⟩ =
          some (ready.needsKeyframe time) :=
        congrArg List.head? (hready.flags_eq _ _)
      refine h.served hcomplete harea hready rfl (hready.fits_iff rfl rfl rfl) ?_ ?_ ?_
      · rw [hflag]
        exact iff_of_true (Nat.succ_pos _) (.inr rfl)
      · rw [hflag]
        simp
      · intro hnone _
        rw [hflag, (ready.needsKeyframe_iff time).mpr (.inl hnone)]

theorem of_run (codec : Codec σ) (interval : Nat) (feedings : List (Feeding σ)) :
    Keeps interval ((Processor.new codec interval).turns feedings)
      ((Processor.new codec interval).after feedings) :=
  Processor.run_induction (motive := fun _ reached turns => Keeps interval turns reached)
    (of_new codec interval) (fun h hfed => h.feed hfed) feedings

end Keeps

/-! ## The flag of a frame -/

namespace Processor

variable {processor : Processor σ} {frame : Frame} {time : Nat} {behaviour : Codec σ}
  {outcome : Outcome σ}

/-- A frame is handed to an engine at most once, and with the flag that the processor with this
engine asks for. -/
theorem Fed.flags_cases (h : processor.Fed ⟨some frame, time, behaviour⟩ outcome) :
    outcome.flags = [] ∨ ∃ engine ready calls,
      processor.Ready behaviour frame engine ready calls ∧
        outcome.flags = [ready.needsKeyframe time] := by
  cases h with
  | rejected hincomplete =>
      exact .inl rfl
  | cleared hcomplete hempty =>
      exact .inl rfl
  | unmade hcomplete harea hunfit hcreate =>
      exact .inl rfl
  | failed hcomplete harea hready hencode =>
      exact .inr ⟨_, _, _, hready, hready.flags_eq _ _⟩
  | encoded hcomplete harea hready hencode =>
      exact .inr ⟨_, _, _, hready, hready.flags_eq _ _⟩

/-- Only a complete frame with an area is handed to an engine. -/
theorem Fed.of_flag {feeding : Feeding σ} (h : processor.Fed feeding outcome) {flag : Bool}
    (hflag : flag ∈ outcome.flags) :
    ∃ frame, feeding.frame = some frame ∧ frame.isComplete = true ∧ frame.isEmpty = false := by
  cases h with
  | failed hcomplete harea hready hencode =>
      exact ⟨_, rfl, hcomplete, harea⟩
  | encoded hcomplete harea hready hencode =>
      exact ⟨_, rfl, hcomplete, harea⟩
  | _ =>
      cases hflag

/-- The packets of a frame have its size, and the flag with which it was handed to its engine. -/
theorem Fed.packets_of_frame (h : processor.Fed ⟨some frame, time, behaviour⟩ outcome) :
    ∀ packet ∈ outcome.packets, outcome.flags = [packet.isKeyframe] ∧
      packet.width = frame.width ∧ packet.height = frame.height := by
  cases h with
  | encoded hcomplete harea hready hencode =>
      intro packet hpacket
      rcases List.mem_map.mp hpacket with ⟨data, -, rfl⟩
      exact ⟨hready.flags_eq _ _, rfl, rfl⟩
  | _ =>
      intro packet hpacket
      cases hpacket

end Processor

/-- The flag with which a frame is handed to its engine says whether a keyframe is due. -/
theorem Keeps.flag_iff {interval : Nat} {turns : List (Turn σ)} {processor : Processor σ}
    {frame : Frame} {time : Nat} {behaviour : Codec σ} {outcome : Outcome σ}
    (h : Keeps interval turns processor)
    (hfed : processor.Fed ⟨some frame, time, behaviour⟩ outcome) {flag : Bool}
    (hflag : flag ∈ outcome.flags) : flag = true ↔ KeyframeDue interval turns frame time := by
  rcases hfed.flags_cases with hnone | ⟨engine, ready, calls, hready, hflags⟩
  · rw [hnone] at hflag
    cases hflag
  · rw [hflags, List.mem_singleton] at hflag
    rw [hflag]
    exact h.needsKeyframe_iff hready time

/-- Whatever a processor has been fed with, and however the codec has behaved: a frame is handed to
its engine as a keyframe exactly when a keyframe is due, that is, when no frame has been encoded
since the latest beginning, blank, frame without area or frame of another size, or when an interval
is set and more than it has passed since the last keyframe. A complete frame with an area is handed
to an engine once, unless no engine can be made, and its packets carry its flag and its size. -/
theorem encodes_keyframes_when_due (codec : Codec σ) (interval : Nat) (before : List (Feeding σ))
    (frame : Frame) (time : Nat) (behaviour : Codec σ) :
    let processor := Processor.new codec interval
    let outcome := (processor.after before).feed ⟨some frame, time, behaviour⟩
    (∀ flag ∈ outcome.flags,
      flag = true ↔ KeyframeDue interval (processor.turns before) frame time) ∧
    (frame.isComplete = true → frame.isEmpty = false →
      outcome.flags.length = 1 ∨ ∃ fault, outcome.result = .error (.codec fault) ∧
        behaviour.create (.realtimeFor frame.width frame.height) = .error fault) ∧
    ∀ packet ∈ outcome.packets, outcome.flags = [packet.isKeyframe] ∧
      packet.width = frame.width ∧ packet.height = frame.height := by
  intro processor outcome
  have hkeeps := Keeps.of_run codec interval before
  have hfed : (processor.after before).Fed ⟨some frame, time, behaviour⟩ outcome :=
    (processor.after before).fed _
  refine ⟨fun flag hflag => hkeeps.flag_iff hfed hflag, ?_, hfed.packets_of_frame⟩
  intro hcomplete harea
  generalize outcome = result at hfed
  cases hfed with
  | rejected hincomplete =>
      rw [hcomplete] at hincomplete
      cases hincomplete
  | cleared _ hempty =>
      rw [harea] at hempty
      cases hempty
  | unmade _ _ hunfit hcreate =>
      exact .inr ⟨_, rfl, hcreate⟩
  | failed _ _ hready hencode =>
      exact .inl (congrArg List.length (hready.flags_eq _ _))
  | encoded _ _ hready hencode =>
      exact .inl (congrArg List.length (hready.flags_eq _ _))

/-- A frame that is encoded, one that is not complete, one that is encoded though the clock has gone
back, and one for which the engine fails though a keyframe is due. -/
def unevenFeedings : List (Feeding Unit) :=
  [⟨some pixel, 1000, .raw .rgb888⟩, ⟨some ⟨1, 1, [1]⟩, 1100, .raw .rgb888⟩,
    ⟨some pixel, 900, .raw .rgb888⟩, ⟨some pixel, 1600, .unavailable "VP8"⟩]

/-- The interval counts from the keyframe at 1000, as the one at 1600 has failed. -/
theorem encodes_keyframes_when_due_uneven :
    let processor := Processor.new (.raw .rgb888) 500
    let outcomeAt := fun time =>
      (processor.after unevenFeedings).feed ⟨some pixel, time, .raw .rgb888⟩
    ((outcomeAt 1501).flags = [true] ∧
      KeyframeDue 500 (processor.turns unevenFeedings) pixel 1501) ∧
    ((outcomeAt 1500).flags = [false] ∧
      ¬ KeyframeDue 500 (processor.turns unevenFeedings) pixel 1500) ∧
    (pixel.isComplete = true ∧ pixel.isEmpty = false ∧ (outcomeAt 1501).flags.length = 1) ∧
    (⟨true, 1, 1, [1, 2, 3]⟩ : Packet) ∈ (outcomeAt 1501).packets := by
  intro processor outcomeAt
  have htheorem := fun time =>
    encodes_keyframes_when_due (.raw .rgb888) 500 unevenFeedings pixel time (.raw .rgb888)
  have hlate : (outcomeAt 1501).flags = [true] := by decide +kernel
  have hearly : (outcomeAt 1500).flags = [false] := by decide +kernel
  have hcomplete : pixel.isComplete = true := by decide +kernel
  have hpacket : (⟨true, 1, 1, [1, 2, 3]⟩ : Packet) ∈ (outcomeAt 1501).packets := by
    decide +kernel
  refine ⟨⟨hlate, ?_⟩, ⟨hearly, ?_⟩, ⟨hcomplete, rfl, ?_⟩, hpacket⟩
  · exact ((htheorem 1501).1 true (hlate ▸ List.mem_singleton_self true)).mp rfl
  · intro hdue
    cases ((htheorem 1500).1 false (hearly ▸ List.mem_singleton_self false)).mpr hdue
  · rcases (htheorem 1501).2.1 hcomplete rfl with honce | ⟨fault, -, hcreate⟩
    · exact honce
    · cases hcreate

end EmulatorHost.Display
