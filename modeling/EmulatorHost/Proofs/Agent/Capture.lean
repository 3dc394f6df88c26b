import EmulatorHost.Console
import EmulatorHost.Proofs.Agent.DisplayStream
import EmulatorHost.Proofs.Display.Engine

/-!
# Captured frames

The console sends images of a display. Their pixels are in the shared memory that is mapped for the
display, or in the image itself. The mapping is as long as the size of the display demands, but
nobody looks at the length of what an image brings along. So a captured frame is complete exactly if
the image brings along nothing, or as many bytes as the size demands, and an image that brings along
something else ends the stream of every client that takes its frame.
-/

namespace EmulatorHost.Agent

open Broadcast Display

/-- An image of a display whose size is accepted, with what is in the shared memory when it comes. -/
structure Capture where
  width : UInt32
  height : UInt32
  length : UInt64
  accepted : Console.frameLength width height = .ok length
  shared : Bytes
  mapped : shared.length = length.toNat
  -- The bytes that the image itself brings along.
  inlined : Bytes

namespace Capture

def frame (capture : Capture) : Frame :=
  Console.captured capture.width capture.height capture.shared capture.inlined

/-- The image leaves its pixels to the shared memory, or brings along as many bytes as the size
demands. -/
def Fits (capture : Capture) : Prop :=
  capture.inlined = [] ∨ capture.inlined.length = capture.length.toNat

theorem length_eq (capture : Capture) :
    capture.length = Frame.byteCount capture.width capture.height := by
  have haccepted := capture.accepted
  unfold Console.frameLength at haccepted
  dsimp only at haccepted
  split at haccepted
  · cases haccepted
  · exact (Except.ok.inj haccepted).symm

/-- The length is that of three bytes a pixel as far as 64 bits hold it. -/
theorem length_of_fits (capture : Capture)
    (hfits : 3 * (capture.width.toNat * capture.height.toNat) < UInt64.size) :
    capture.length.toNat = 3 * (capture.width.toNat * capture.height.toNat) := by
  rw [capture.length_eq, Frame.toNat_byteCount_of_fits hfits]

theorem length_frame_iff (capture : Capture) :
    capture.frame.data.length = capture.length.toNat ↔ capture.Fits := by
  have hlength := capture.mapped
  unfold frame Console.captured Fits
  cases hinlined : capture.inlined with
  | nil =>
      exact iff_of_true hlength (.inl rfl)
  | cons byte rest =>
      exact (or_iff_right (List.cons_ne_nil byte rest)).symm

theorem isComplete_iff (capture : Capture) : capture.frame.isComplete = true ↔ capture.Fits := by
  rw [← capture.length_frame_iff, capture.length_eq]
  exact beq_iff_eq

end Capture

/-! ## What a processor makes of captured frames -/

variable {σ : Type} {processor : Processor σ}

/-- A frame was not complete. -/
def IsBadFrame {α : Type} (result : Except Display.Error α) : Prop :=
  ∃ width height length, result = .error (.badFrame width height length)

theorem isBadFrame_process_iff {frame : Option Frame} {time : Nat} :
    IsBadFrame (processor.process frame time).result ↔
      ∃ fed, frame = some fed ∧ fed.isComplete = false := by
  constructor
  · rintro ⟨width, height, length, hresult⟩
    have hfed := processor.fed ⟨frame, time, processor.codec⟩
    rw [processor.feed_eq_process] at hfed
    generalize processor.process frame time = outcome at hfed hresult
    -- Of the six exits only one refuses a frame, and only one that is not complete.
    cases hfed with
    | rejected hincomplete =>
        exact ⟨_, rfl, hincomplete⟩
    | _ =>
        cases hresult
  · rintro ⟨fed, rfl, hincomplete⟩
    refine ⟨fed.width, fed.height, fed.data.length, ?_⟩
    simp [Processor.process, hincomplete]

/-- A captured frame is refused exactly if its image brings along another number of bytes. -/
theorem Capture.isBadFrame_iff (capture : Capture) (processor : Processor σ) (time : Nat) :
    IsBadFrame (processor.process (some capture.frame) time).result ↔ ¬ capture.Fits := by
  rw [isBadFrame_process_iff, ← capture.isComplete_iff, Bool.not_eq_true]
  constructor
  · rintro ⟨fed, hframe, hincomplete⟩
    rw [Option.some.inj hframe]
    exact hincomplete
  · intro hincomplete
    exact ⟨capture.frame, rfl, hincomplete⟩

/-- The processing ends with a refusal exactly if one of the frames is not complete. -/
theorem Processes.isBadFrame_iff {taken : List Taking} {packets : List Packet}
    {ending : Except Display.Error (Processor σ)}
    (h : Processes processor taken packets ending) :
    IsBadFrame ending ↔
      ∃ item ∈ taken, ∃ fed, item.frame = some fed ∧ fed.isComplete = false := by
  induction h with
  | nothing processor =>
      apply iff_of_false
      · rintro ⟨_, _, _, hending⟩
        cases hending
      · rintro ⟨item, hitem, -⟩
        cases hitem
  | @makes processor item later first rest ending hfirst hrest ih =>
      -- The first frame has been accepted, so it is complete.
      have hcomplete : ¬ ∃ fed, item.frame = some fed ∧ fed.isComplete = false := by
        intro hincomplete
        rcases isBadFrame_process_iff.mpr hincomplete with ⟨_, _, _, hresult⟩
        cases hfirst.symm.trans hresult
      rw [ih, List.exists_mem_cons_iff]
      exact (or_iff_right hcomplete).symm
  | @fails processor item error hfails =>
      have hitem : IsBadFrame (.error error : Except Display.Error (Processor σ)) ↔
          IsBadFrame (processor.process item.frame item.time).result := by
        rw [hfails]
        simp [IsBadFrame]
      rw [hitem, isBadFrame_process_iff]
      simp

namespace DisplayStream

/-- A captured frame carries as many bytes as its size demands exactly if its image leaves the pixels
to the shared memory or brings along that many, and a processor refuses it exactly if not. While
nothing but captured frames is broadcast, the stream of a client ends with a refusal exactly if the
client has taken a frame whose image brings along another number of bytes; nothing follows then. -/
theorem refuses_unfit_captures (before : List (Step (Option Frame))) (processor : Processor σ)
    (rate clock : Nat) (moves : List Move) :
    let client := (Hub.after before).listeners.length
    let stream := (opened before processor rate clock).run client moves
    (∀ capture : Capture,
      (capture.frame.data.length = capture.length.toNat ↔ capture.Fits) ∧
      (3 * (capture.width.toNat * capture.height.toNat) < UInt64.size →
        capture.length.toNat = 3 * (capture.width.toNat * capture.height.toNat)) ∧
      ∀ time, IsBadFrame (processor.process (some capture.frame) time).result ↔
        ¬ capture.Fits) ∧
    ((∀ frame, some frame ∈ stored stream.steps → ∃ capture : Capture, capture.frame = frame) →
      ∃ packets ending, Processes processor stream.taken packets ending ∧
        stream.output = messages packets ending ∧
        (IsBadFrame ending ↔ ∃ item ∈ stream.taken, ∃ capture : Capture,
          item.frame = some capture.frame ∧ ¬ capture.Fits) ∧
        (IsBadFrame ending → ∀ later,
          (stream.run client later).output = stream.output)) := by
  intro client stream
  refine ⟨?_, ?_⟩
  · intro capture
    exact ⟨capture.length_frame_iff, capture.length_of_fits, capture.isBadFrame_iff processor⟩
  · intro hcaptured
    have h : Delivering client processor stream :=
      (delivering_opened before processor rate clock).run moves
    rcases h.made with ⟨packets, ending, hprocesses, hmade, hstands⟩
    refine ⟨packets, ending, hprocesses, hmade, ?_, ?_⟩
    · rw [hprocesses.isBadFrame_iff]
      constructor
      · rintro ⟨item, hitem, fed, hframe, hincomplete⟩
        -- What the client has taken was broadcast, so it was captured.
        have hgot : (item.generation, item.frame) ∈ got client stream.steps := by
          rw [← h.taken_eq]
          exact List.mem_map_of_mem hitem
        have hstored := mem_stored_of_storedAs ((Hub.inStep client stream.steps).fromStored _ hgot)
        rcases hcaptured fed (hframe ▸ hstored) with ⟨capture, rfl⟩
        refine ⟨item, hitem, capture, hframe, ?_⟩
        rw [← capture.isComplete_iff, hincomplete]
        exact Bool.false_ne_true
      · rintro ⟨item, hitem, capture, hframe, hunfit⟩
        refine ⟨item, hitem, capture.frame, hframe, ?_⟩
        exact Bool.eq_false_iff.mpr (mt capture.isComplete_iff.mp hunfit)
    · rintro ⟨_, _, _, rfl⟩ later
      exact (run_of_ended hstands later).2

def sharedPixel : Capture where
  width := 1
  height := 1
  length := 3
  accepted := rfl
  shared := [1, 2, 3]
  mapped := rfl
  inlined := []

def tornPixel : Capture :=
  { sharedPixel with inlined := [1, 2] }

/-- A frame is captured for each of the two, and the client takes both. -/
theorem refuses_unfit_captures_tornPixel :
    let broken := (opened [.listen, .store none, .notify] (Processor.new (.raw .rgb888) 0) 30 0).run
      1 brokenMoves
    3 * (1 * 1) < UInt64.size ∧ sharedPixel.length.toNat = 3 * (1 * 1) ∧
    stored broken.steps = [none, some sharedPixel.frame, some tornPixel.frame] ∧
    (∃ item ∈ broken.taken, item.frame = some tornPixel.frame) ∧
    ∃ packets ending, Processes (Processor.new (.raw .rgb888) 0) broken.taken packets ending ∧
      IsBadFrame ending ∧ ∀ later, (broken.run 1 later).output = broken.output := by
  intro broken
  have htheorem := refuses_unfit_captures [.listen, .store none, .notify]
    (Processor.new (.raw .rgb888) 0) 30 0 brokenMoves
  have hstored : stored broken.steps =
      [none, some sharedPixel.frame, some tornPixel.frame] := by
    decide +kernel
  have htaken : ∃ item ∈ broken.taken, item.frame = some tornPixel.frame := by
    decide +kernel
  have hunfit : ¬ tornPixel.Fits := by
    rintro (hnothing | hlength)
    · cases hnothing
    · cases hlength
  have hcaptured : ∀ frame, some frame ∈ stored broken.steps →
      ∃ capture : Capture, capture.frame = frame := by
    intro frame hframe
    rw [hstored] at hframe
    rcases List.mem_cons.mp hframe with hnone | hframe
    · cases hnone
    rcases List.mem_cons.mp hframe with hshared | hframe
    · exact ⟨sharedPixel, (Option.some.inj hshared).symm⟩
    · exact ⟨tornPixel, (Option.some.inj (List.mem_singleton.mp hframe)).symm⟩
  have hsize : 3 * (1 * 1) < UInt64.size := by decide
  rcases htheorem.2 hcaptured with ⟨packets, ending, hprocesses, -, hbad, hafter⟩
  rcases htaken with ⟨item, hitem, hframe⟩
  have hending : IsBadFrame ending := hbad.mpr ⟨item, hitem, tornPixel, hframe, hunfit⟩
  exact ⟨hsize, (htheorem.1 sharedPixel).2.1 hsize, hstored, ⟨item, hitem, hframe⟩,
    packets, ending, hprocesses, hending, hafter hending⟩

/-- The display of one pixel is accepted, yet its image ends the stream of a client. -/
theorem tornPixel_ends_stream :
    let broken := (opened [.listen, .store none, .notify] (Processor.new (.raw .rgb888) 0) 30 0).run
      1 brokenMoves
    Console.frameLength 1 1 = .ok 3 ∧
    tornPixel.frame.data.length ≠ 3 * (1 * 1) ∧
    ((Processor.new (.raw .rgb888) 0).process (some tornPixel.frame) 0).result =
      .error (.badFrame 1 1 2) ∧
    stored broken.steps = [none, some sharedPixel.frame, some tornPixel.frame] ∧
    broken.received =
      [.ok ⟨true, 1, 1, [1, 2, 3]⟩, .error ⟨.internal, "frame of 1x1 carries 2 bytes"⟩] := by
  intro broken
  refine ⟨rfl, by decide, rfl, ?_, ?_⟩
  · decide +kernel
  · decide +kernel

end DisplayStream

end EmulatorHost.Agent
