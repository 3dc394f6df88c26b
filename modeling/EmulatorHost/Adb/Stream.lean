import EmulatorHost.Bytes
import EmulatorHost.SystemError

/-!
# The two directions of a stream

A `Source` is what the peer sends: byte segments, each of which one low-level read can take from,
and how the direction ends. A `Sink` is what the peer takes: the bytes sent so far and the room that
is left. `Source.readExact` and `Sink.write` move whole blocks.
-/

namespace EmulatorHost.Adb

inductive Ending where
  | finished
  | failed (cause : SystemError)
deriving DecidableEq, Repr, Inhabited

namespace Ending

/-- The failure of a read that needs a byte when none is left. -/
def shortRead : Ending → SystemError
  | finished => .text "early eof"
  | failed cause => cause

end Ending

/-- The bytes that the peer sends, in segments as they arrive, and how they end. -/
structure Source where
  segments : List Bytes
  ending : Ending
deriving DecidableEq, Repr, Inhabited

namespace Source

/-- All bytes still to come. -/
def bytes (source : Source) : Bytes :=
  source.segments.flatten

def ofBytes (bytes : Bytes) (ending : Ending) : Source :=
  ⟨[bytes], ending⟩

def cutFrom (size : Nat) (done : List Bytes) (bytes : Bytes) : List Bytes :=
  if bytes.length ≤ size || size == 0 then (bytes :: done).reverse
  else cutFrom size (bytes.take size :: done) (bytes.drop size)
termination_by bytes.length
decreasing_by
  simp_all only [Bool.or_eq_true, decide_eq_true_eq, beq_iff_eq, List.length_drop]
  omega

/-- Cuts a byte string into segments of `size` bytes; size 0 leaves it whole. -/
def cut (size : Nat) (bytes : Bytes) : List Bytes :=
  cutFrom size [] bytes

/-- Takes `need` more bytes off the segments, on top of the pieces taken before, which are given
last first; nothing if the segments hold too few. -/
def takeFrom (need : Nat) (taken : List Bytes) : List Bytes → Option (Bytes × List Bytes)
  | [] => if need = 0 then some (taken.reverse.flatten, []) else none
  | segment :: rest =>
    if need ≤ segment.length then
      some ((segment.take need :: taken).reverse.flatten, segment.drop need :: rest)
    else takeFrom (need - segment.length) (segment :: taken) rest

/-- Reads exactly `count` bytes, over as many low-level reads as that takes; reading none needs no
byte and cannot fail. -/
def readExact (count : Nat) (source : Source) : Except SystemError Bytes × Source :=
  match takeFrom count [] source.segments with
  | some (block, rest) => (.ok block, { source with segments := rest })
  | none => (.error source.ending.shortRead, { source with segments := [] })

def takeByte : List Bytes → Option (UInt8 × List Bytes)
  | [] => none
  | [] :: rest => takeByte rest
  | (byte :: segment) :: rest => some (byte, segment :: rest)

def size (source : Source) : Nat :=
  source.bytes.length

theorem takeFrom_eq (need : Nat) (taken segments : List Bytes) :
    (takeFrom need taken segments).map (fun r => (r.1, r.2.flatten)) =
      if need ≤ segments.flatten.length then
        some (taken.reverse.flatten ++ segments.flatten.take need, segments.flatten.drop need)
      else none := by
  induction segments generalizing need taken with
  | nil =>
    by_cases hneed : need = 0 <;> simp [takeFrom, hneed]
  | cons segment rest ih =>
    by_cases hfit : need ≤ segment.length
    · have hall : need ≤ segment.length + rest.flatten.length := by omega
      have hzero : need - segment.length = 0 := by omega
      simp [takeFrom, hfit, hall, hzero, List.take_append, List.drop_append, -List.length_flatten]
    · have hle : segment.length ≤ need := by omega
      by_cases hall : need - segment.length ≤ rest.flatten.length
      · have htotal : need ≤ segment.length + rest.flatten.length := by omega
        simp [takeFrom, hfit, ih, hall, htotal, List.take_append, List.drop_append,
          List.take_of_length_le hle, List.drop_eq_nil_of_le hle, -List.length_flatten]
      · have htotal : ¬ need ≤ segment.length + rest.flatten.length := by omega
        simp [takeFrom, hfit, ih, hall, htotal, -List.length_flatten]

/-- A block that is there is read, whatever the segments; the bytes after it stay. -/
theorem readExact_of_le {source : Source} {count : Nat} (h : count ≤ source.bytes.length) :
    (readExact count source).1 = .ok (source.bytes.take count) ∧
      (readExact count source).2.bytes = source.bytes.drop count ∧
      (readExact count source).2.ending = source.ending := by
  have hspec := takeFrom_eq count [] source.segments
  have hlen : count ≤ source.segments.flatten.length := h
  rw [if_pos hlen] at hspec
  cases htake : takeFrom count [] source.segments with
  | none => simp [htake] at hspec
  | some result =>
    simp only [htake, Option.map_some, List.reverse_nil, List.flatten_nil, List.nil_append,
      Option.some.injEq, Prod.mk.injEq] at hspec
    simp [readExact, htake, bytes, hspec]

/-- A block that is not there in full cannot be read. -/
theorem readExact_of_lt {source : Source} {count : Nat} (h : source.bytes.length < count) :
    (readExact count source).1 = .error source.ending.shortRead := by
  have hspec := takeFrom_eq count [] source.segments
  have hlen : ¬ count ≤ source.segments.flatten.length := by
    have : source.segments.flatten.length < count := h
    omega
  rw [if_neg hlen] at hspec
  cases htake : takeFrom count [] source.segments with
  | none => simp [readExact, htake]
  | some result => simp [htake] at hspec

end Source

/-- The bytes that the peer has taken, the room left for more if it is limited, and how a write
beyond the room fails. -/
structure Sink where
  sent : Bytes
  room : Option Nat
  fault : SystemError
deriving DecidableEq, Repr, Inhabited

namespace Sink

def unlimited : Sink :=
  ⟨[], none, .text "write limit reached"⟩

/-- Writes a block: all of it if there is room, else as much as there is room for. -/
def write (data : Bytes) (sink : Sink) : Except SystemError Unit × Sink :=
  match sink.room with
  | none => (.ok (), { sink with sent := sink.sent ++ data })
  | some room =>
    if data.length ≤ room then
      (.ok (), { sink with sent := sink.sent ++ data, room := some (room - data.length) })
    else
      (.error sink.fault, { sink with sent := sink.sent ++ data.take room, room := some 0 })

end Sink

end EmulatorHost.Adb
