import EmulatorHost.Proofs.Display.Keyframes

/-!
# The first packet after a start

A client can begin to decode only with a keyframe. What it receives starts over at the beginning of
its stream, with a blank, with a frame without area and with a frame of another size. The processor
then encodes the next frame as a keyframe, but an engine need not yield a packet for it. So the first
packet that the client receives afterwards is a keyframe when engines yield something for keyframes
(`first_packet_isKeyframe`), and need not be one otherwise (`first_packet_of_lagging`).
-/

namespace EmulatorHost.Display

variable {σ : Type}

def Feeding.completeFrame? (feeding : Feeding σ) : Option Frame :=
  feeding.frame.filter Frame.isComplete

/-- A blank is fed, or a complete frame without area. -/
def Feeding.clears (feeding : Feeding σ) : Bool :=
  match feeding.frame with
  | none => true
  | some frame => frame.isComplete && frame.isEmpty

def lastFrame? (turns : List (Turn σ)) : Option Frame :=
  turns.reverse.findSome? fun turn => turn.feeding.completeFrame?

inductive StartsOver (past : List (Turn σ)) (later : List (Feeding σ)) : Prop where
  -- What a client receives starts over between these turns and those with `later`.
  | beginning (hpast : past = [])
  | cleared {before : List (Turn σ)} {last : Turn σ} (hpast : past = before ++ [last])
      (hclears : last.feeding.clears = true)
  | resized {next : Feeding σ} {rest : List (Feeding σ)} {last frame : Frame}
      (hlater : later = next :: rest) (hlast : lastFrame? past = some last)
      (hframe : next.completeFrame? = some frame)
      (hsize : last.width ≠ frame.width ∨ last.height ≠ frame.height)

/-! ## Since when frames have been encoded -/

theorem Processor.turns_map (processor : Processor σ) (feedings : List (Feeding σ)) :
    (processor.turns feedings).map Turn.feeding = feedings := by
  induction feedings generalizing processor with
  | nil =>
      rfl
  | cons feeding feedings ih =>
      exact congrArg (List.cons feeding) (ih (processor.feed feeding).processor)

theorem lastFrame?_concat (turns : List (Turn σ)) (turn : Turn σ) :
    lastFrame? (turns ++ [turn]) = turn.feeding.completeFrame?.or (lastFrame? turns) :=
  findSome?_reverse_concat (fun turn => turn.feeding.completeFrame?) turns turn

theorem renews_of_clears {feeding : Feeding σ} (h : feeding.clears = true) (frame : Frame) :
    feeding.renews frame = true := by
  rcases feeding with ⟨_ | other, time, behaviour⟩
  · rfl
  · rcases (Bool.and_eq_true _ _).mp h with ⟨hcomplete, hempty⟩
    simp [Feeding.renews, hcomplete, hempty]

/-- A complete frame starts anew the encoding of all frames of another size. -/
theorem size_eq_of_renews {feeding : Feeding σ} {other frame : Frame}
    (hother : feeding.completeFrame? = some other) (hsame : feeding.renews frame = false) :
    other.width = frame.width ∧ other.height = frame.height := by
  rcases feeding with ⟨fed, time, behaviour⟩
  rcases Option.filter_eq_some_iff.mp hother with ⟨hfed, hcomplete⟩
  subst hfed
  simp only [Feeding.renews, hcomplete, Bool.true_and, Bool.or_eq_false_iff, bne_eq_false_iff_eq]
    at hsame
  exact ⟨hsame.1.2, hsame.2⟩

theorem mem_of_mem_since {frame : Frame} {turns : List (Turn σ)} {turn : Turn σ}
    (h : turn ∈ since frame turns) : turn ∈ turns :=
  (List.rtakeWhile_suffix _ turns).subset h

theorem mem_since_append {frame : Frame} {past turns : List (Turn σ)} {turn : Turn σ} :
    turn ∈ since frame (past ++ turns) ↔ turn ∈ since frame turns ∨
      (∀ later ∈ turns, later.feeding.renews frame = false) ∧ turn ∈ since frame past := by
  -- One turn more either starts the frame anew, and nothing of either part is left, or is added.
  induction turns using List.reverseRecOn with
  | nil =>
      simp [since]
  | append_singleton turns last ih =>
      rw [← List.append_assoc, since_concat, since_concat]
      cases hrenews : last.feeding.renews frame with
      | true =>
          simp [or_imp, forall_and, hrenews]
      | false =>
          simp only [Bool.false_eq_true, ↓reduceIte, List.mem_append, ih, List.mem_singleton,
            or_imp, forall_and, forall_eq, hrenews, and_true]
          tauto

theorem encodedSince_append {frame : Frame} {past turns : List (Turn σ)} :
    EncodedSince frame (past ++ turns) ↔ EncodedSince frame turns ∨
      (∀ turn ∈ turns, turn.feeding.renews frame = false) ∧ EncodedSince frame past := by
  simp only [EncodedSince, mem_since_append, or_and_right, exists_or, and_assoc, exists_and_left]

theorem mem_flags_of_encodedAs? {outcome : Outcome σ} {flag : Bool}
    (h : outcome.encodedAs? = some flag) : flag ∈ outcome.flags := by
  unfold Outcome.encodedAs? at h
  split at h
  · exact List.mem_of_head? h
  · cases h

/-- Only frames of the size of the last complete frame have been encoded since the latest start. -/
theorem size_eq_of_encodedSince (codec : Codec σ) (interval : Nat) (feedings : List (Feeding σ)) :
    ∀ frame last, EncodedSince frame ((Processor.new codec interval).turns feedings) →
      lastFrame? ((Processor.new codec interval).turns feedings) = some last →
      last.width = frame.width ∧ last.height = frame.height := by
  apply Processor.run_induction (motive := fun _ _ turns => ∀ frame last,
    EncodedSince frame turns → lastFrame? turns = some last →
    last.width = frame.width ∧ last.height = frame.height)
  · intro frame last _ hlast
    cases hlast
  · intro feedings reached turns feeding outcome ih hfed frame last hencoded hlast
    rw [encodedSince_concat] at hencoded
    rw [lastFrame?_concat] at hlast
    cases hother : feeding.completeFrame? with
    | some other =>
        rw [hother, Option.some_or, Option.some.injEq] at hlast
        exact hlast ▸ size_eq_of_renews hother hencoded.1
    | none =>
        -- Nothing is encoded without a complete frame, so it has been encoded before.
        rw [hother, Option.none_or] at hlast
        refine ih frame last (hencoded.2.resolve_right ?_) hlast
        intro hnow
        rcases Option.isSome_iff_exists.mp hnow with ⟨flag, hflag⟩
        rcases hfed.of_flag (mem_flags_of_encodedAs? hflag) with ⟨fed, hframe, hcomplete, -⟩
        have hsome : feeding.completeFrame? = some fed :=
          Option.filter_eq_some_iff.mpr ⟨hframe, hcomplete⟩
        rw [hother] at hsome
        cases hsome

/-! ## The first packet -/

/-- Unless a start comes between, nothing of the size of a frame has been encoded before the client
starts over. -/
theorem StartsOver.not_encodedSince {codec : Codec σ} {interval : Nat}
    {past recent : List (Feeding σ)} {feeding : Feeding σ} {frame : Frame}
    (h : StartsOver ((Processor.new codec interval).turns past) (recent ++ [feeding]))
    (hframe : feeding.completeFrame? = some frame)
    (hsame : ∀ fed ∈ recent, fed.renews frame = false) :
    ¬ EncodedSince frame ((Processor.new codec interval).turns past) := by
  intro hencoded
  cases h with
  | beginning hpast =>
      rw [hpast] at hencoded
      simp [EncodedSince, since] at hencoded
  | cleared hpast hclears =>
      rw [hpast, encodedSince_concat, renews_of_clears hclears] at hencoded
      cases hencoded.1
  | @resized next rest last other hlater hlast hother hsize =>
      -- The frame that has another size does not start `frame` anew, so the two are of one size.
      have hnext : other.width = frame.width ∧ other.height = frame.height := by
        cases recent with
        | nil =>
            cases hlater
            rw [hframe] at hother
            cases hother
            exact ⟨rfl, rfl⟩
        | cons fed recent =>
            cases hlater
            exact size_eq_of_renews hother (hsame next List.mem_cons_self)
      have hpast := size_eq_of_encodedSince codec interval past frame last hencoded hlast
      exact hsize.elim (fun hwidth => hwidth (hpast.1.trans hnext.1.symm))
        fun hheight => hheight (hpast.2.trans hnext.2.symm)

/-- Each turn is a feeding of some processor. -/
theorem Processor.fed_of_mem_turns {processor : Processor σ} {feedings : List (Feeding σ)}
    {turn : Turn σ} (h : turn ∈ processor.turns feedings) :
    ∃ reached : Processor σ, reached.Fed turn.feeding turn.outcome := by
  induction feedings generalizing processor with
  | nil =>
      cases h
  | cons feeding feedings ih =>
      rcases List.mem_cons.mp h with rfl | hrest
      · exact ⟨processor, processor.fed feeding⟩
      · exact ih hrest

/-- What is encoded is no blank. -/
theorem Processor.Fed.ne_blank {processor : Processor σ} {feeding : Feeding σ} {outcome : Outcome σ}
    (h : processor.Fed feeding outcome) {flag : Bool} (hflag : flag ∈ outcome.flags) :
    ∀ packet ∈ outcome.packets, packet ≠ Packet.blank := by
  rcases h.of_flag hflag with ⟨frame, hframe, -, harea⟩
  rcases feeding with ⟨_, time, behaviour⟩
  subst hframe
  intro packet hpacket hblank
  have hwidth : frame.width = 0 := by
    rw [← (h.packets_of_frame packet hpacket).2.1, hblank]
    rfl
  rw [Frame.isEmpty, hwidth] at harea
  cases harea

/-- The first packet other than a blank after a client's stream has started over comes from a frame
that is fed when `recent` has yielded nothing. It is a keyframe if no frame of its size has been
encoded in the meantime, or if the interval has passed, and not otherwise. So it is a keyframe
whenever the engines yield a packet for each frame that they encode as a keyframe. -/
theorem first_packet_isKeyframe (codec : Codec σ) (interval : Nat) (past recent : List (Feeding σ))
    (frame : Frame) (time : Nat) (behaviour : Codec σ)
    (hstart : StartsOver ((Processor.new codec interval).turns past)
      (recent ++ [⟨some frame, time, behaviour⟩]))
    (hnothing : ∀ turn ∈ ((Processor.new codec interval).after past).turns recent,
      ∀ packet ∈ turn.outcome.packets, packet = Packet.blank) :
    let processor := Processor.new codec interval
    let meantime := (processor.after past).turns recent
    let outcome := (processor.after (past ++ recent)).feed ⟨some frame, time, behaviour⟩
    ∀ packet ∈ outcome.packets,
      (packet.isKeyframe = true ↔ ¬ EncodedSince frame meantime ∨ 0 < interval ∧
        ∃ last, lastKeyframe? (processor.turns (past ++ recent)) = some last ∧
          interval < time - last) ∧
      ((∀ turn ∈ meantime, turn.outcome.encodedAs? = some true → turn.outcome.packets ≠ []) →
        packet.isKeyframe = true) := by
  intro processor meantime outcome packet hpacket
  have hkeeps := Keeps.of_run codec interval (past ++ recent)
  have hfed : (processor.after (past ++ recent)).Fed ⟨some frame, time, behaviour⟩ outcome :=
    (processor.after (past ++ recent)).fed _
  have hflag : packet.isKeyframe ∈ outcome.flags := by
    rw [(hfed.packets_of_frame packet hpacket).1]
    exact List.mem_singleton_self _
  have hdue := hkeeps.flag_iff hfed hflag
  rcases hfed.of_flag hflag with ⟨other, hother, hcomplete, -⟩
  cases hother
  have hturns : processor.turns (past ++ recent) = processor.turns past ++ meantime :=
    processor.turns_append past recent
  -- Nothing that was encoded before the start counts for this frame.
  have hpast : (∀ turn ∈ meantime, turn.feeding.renews frame = false) →
      ¬ EncodedSince frame (processor.turns past) := by
    intro hsame
    apply hstart.not_encodedSince (Option.filter_eq_some_iff.mpr ⟨rfl, hcomplete⟩)
    intro fed hmem
    rw [← (processor.after past).turns_map recent] at hmem
    rcases List.mem_map.mp hmem with ⟨turn, hturn, rfl⟩
    exact hsame turn hturn
  have hsince : EncodedSince frame (processor.turns (past ++ recent)) ↔
      EncodedSince frame meantime := by
    rw [hturns, encodedSince_append]
    exact or_iff_left fun h => hpast h.1 h.2
  refine ⟨hdue.trans (or_congr_left (not_congr hsince)), ?_⟩
  intro hyields
  by_contra hplain
  -- The frame is no keyframe, so one has been encoded since the start, and has yielded a packet.
  have hencoded : EncodedSince frame (processor.turns (past ++ recent)) := by
    by_contra hnone
    exact hplain (hdue.mpr (.inl hnone))
  rcases hkeeps.started frame hencoded with ⟨turn, hturn, hkeyframe⟩
  rw [hturns, mem_since_append] at hturn
  rcases hturn with hturn | ⟨hsame, hturn⟩
  · have hmem : turn ∈ meantime := mem_of_mem_since hturn
    rcases List.exists_mem_of_ne_nil _ (hyields turn hmem hkeyframe) with ⟨first, hfirst⟩
    rcases Processor.fed_of_mem_turns hmem with ⟨reached, hreached⟩
    exact hreached.ne_blank (mem_flags_of_encodedAs? hkeyframe) first hfirst
      (hnothing turn hmem first hfirst)
  · exact hpast hsame ⟨turn, hturn, by rw [hkeyframe]; rfl⟩

/-- A frame of another size than `pixel` for which no engine can be made, and one that is not
complete. -/
def stumblingFeedings : List (Feeding Unit) :=
  [⟨some pair, 1, .unavailable "VP8"⟩, ⟨some ⟨1, 1, [1]⟩, 2, .raw .rgb888⟩]

theorem first_packet_isKeyframe_stumbling :
    let processor := Processor.new (.raw .rgb888) 0
    let past := [⟨some pixel, 0, .raw .rgb888⟩]
    let next : Feeding Unit := ⟨some pair, 3, .raw .rgb888⟩
    let meantime := (processor.after past).turns stumblingFeedings
    StartsOver (processor.turns past) (stumblingFeedings ++ [next]) ∧
      (∀ turn ∈ meantime, ∀ packet ∈ turn.outcome.packets, packet = Packet.blank) ∧
      ∃ packet ∈ ((processor.after (past ++ stumblingFeedings)).feed next).packets,
        packet.isKeyframe = true := by
  intro processor past next meantime
  have hpixel : lastFrame? (processor.turns past) = some pixel := by decide +kernel
  have hpair : Feeding.completeFrame? ⟨some pair, 1, Codec.unavailable "VP8"⟩ = some pair := by
    decide +kernel
  have hstart : StartsOver (processor.turns past) (stumblingFeedings ++ [next]) :=
    .resized rfl hpixel hpair (.inl (by decide))
  have hnothing : ∀ turn ∈ meantime, ∀ packet ∈ turn.outcome.packets, packet = Packet.blank := by
    decide +kernel
  have hpacket : (⟨true, 2, 1, pair.data⟩ : Packet) ∈
      ((processor.after (past ++ stumblingFeedings)).feed next).packets := by
    decide +kernel
  have hyields : ∀ turn ∈ meantime, turn.outcome.encodedAs? = some true →
      turn.outcome.packets ≠ [] := by
    decide +kernel
  refine ⟨hstart, hnothing, _, hpacket, ?_⟩
  exact (first_packet_isKeyframe _ 0 past stumblingFeedings pair 3 _ hstart hnothing _ hpacket).2
    hyields

/-- A codec whose engines yield nothing for the first image. Their states count the images. -/
def lagging : Codec Nat where
  check := .ok ()
  create _ := .ok 0
  format _ := .rgb888
  encode images image _ := (.ok (if images = 0 then [] else [image]), images + 1)

/-- Without a packet for the keyframe, the first packet that a client receives is none. -/
theorem first_packet_of_lagging :
    let feedings := [⟨some pixel, 0, lagging⟩, ⟨some pixel, 1, lagging⟩]
    let turns := (Processor.new lagging 0).turns feedings
    StartsOver ([] : List (Turn Nat)) feedings ∧ pixel.isComplete = true ∧
      turns.map (·.outcome.flags) = [[true], [false]] ∧
      turns.map (·.outcome.packets) = [[], [⟨false, 1, 1, pixel.data⟩]] := by
  refine ⟨.beginning rfl, ?_, ?_, ?_⟩ <;> decide +kernel

end EmulatorHost.Display
