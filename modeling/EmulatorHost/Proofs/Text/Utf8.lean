import EmulatorHost.Bytes
import EmulatorHost.Text.Utf8
import Mathlib.Data.String.Basic
import Mathlib.Tactic.SplitIfs

/-!
# Which byte strings are texts

The strict reading of UTF-8 accepts the encodings of texts and nothing else, and the lossy reading
agrees with it on them. A sequence of bytes that stands for one scalar is described by its ranges
(`Sequence`); what `unit` reads and what the encoding of a character is are both compared with
that. The main statement is `decode?_eq_some_iff`.
-/

namespace EmulatorHost.Utf8

/-- The bytes are the encoding of a text. -/
def IsText (bytes : Bytes) : Prop :=
  ∃ text, Bytes.ofString text = bytes

/-! ## Sequences -/

/-- A byte that goes on in a sequence. -/
def IsTail (byte : UInt8) : Prop :=
  0x80 ≤ byte.toNat ∧ byte.toNat ≤ 0xBF

/-- What may come second, by the lead byte: no overlong form, no surrogate, and nothing above
U+10FFFF. -/
def IsSecond (lead byte : UInt8) : Prop :=
  IsTail byte ∧ (lead.toNat = 0xE0 → 0xA0 ≤ byte.toNat) ∧ (lead.toNat = 0xED → byte.toNat ≤ 0x9F) ∧
    (lead.toNat = 0xF0 → 0x90 ≤ byte.toNat) ∧ (lead.toNat = 0xF4 → byte.toNat ≤ 0x8F)

inductive Sequence : Bytes → Nat → Prop where
  -- The sequences that stand for one scalar, with its number.
  | one {lead : UInt8} : lead.toNat < 0x80 → Sequence [lead] lead.toNat
  | two {lead b : UInt8} :
      0xC2 ≤ lead.toNat → lead.toNat ≤ 0xDF → IsTail b →
      Sequence [lead, b] (lead.toNat % 32 * 64 + b.toNat % 64)
  | three {lead b c : UInt8} :
      0xE0 ≤ lead.toNat → lead.toNat ≤ 0xEF → IsSecond lead b → IsTail c →
      Sequence [lead, b, c] ((lead.toNat % 16 * 64 + b.toNat % 64) * 64 + c.toNat % 64)
  | four {lead b c d : UInt8} :
      0xF0 ≤ lead.toNat → lead.toNat ≤ 0xF4 → IsSecond lead b → IsTail c → IsTail d →
      Sequence [lead, b, c, d]
        (((lead.toNat % 8 * 64 + b.toNat % 64) * 64 + c.toNat % 64) * 64 + d.toNat % 64)

theorem isContinuation_iff {byte : UInt8} : isContinuation byte = true ↔ IsTail byte := by
  simp [isContinuation, IsTail, UInt8.le_iff_toNat_le]

theorem mem_secondRange_iff {lead byte : UInt8} :
    (decide ((secondRange lead).1 ≤ byte) && decide (byte ≤ (secondRange lead).2)) = true ↔
      IsSecond lead byte := by
  simp only [secondRange, IsSecond, IsTail, beq_iff_eq, ← UInt8.toNat_inj, UInt8.le_iff_toNat_le,
    Bool.and_eq_true, decide_eq_true_eq, UInt8.reduceToNat]
  split_ifs with hE0 hED hF0 hF4
  all_goals
    simp only [UInt8.reduceToNat]
    omega

theorem sequenceLength_eq (lead : UInt8) :
    sequenceLength lead =
      if lead.toNat < 0x80 then 1
      else if 0xC2 ≤ lead.toNat ∧ lead.toNat ≤ 0xDF then 2
      else if 0xE0 ≤ lead.toNat ∧ lead.toNat ≤ 0xEF then 3
      else if 0xF0 ≤ lead.toNat ∧ lead.toNat ≤ 0xF4 then 4
      else 0 := by
  simp [sequenceLength, UInt8.le_iff_toNat_le, UInt8.lt_iff_toNat_lt]

theorem bounds_of_sequenceLength (lead : UInt8) :
    (sequenceLength lead = 1 → lead.toNat < 0x80) ∧
    (sequenceLength lead = 2 → 0xC2 ≤ lead.toNat ∧ lead.toNat ≤ 0xDF) ∧
    (sequenceLength lead = 3 → 0xE0 ≤ lead.toNat ∧ lead.toNat ≤ 0xEF) ∧
    (sequenceLength lead = 4 → 0xF0 ≤ lead.toNat ∧ lead.toNat ≤ 0xF4) := by
  rw [sequenceLength_eq]
  split_ifs <;> simp_all

/-! ## What a unit reads -/

/-- A sequence is read as its scalar, whatever follows it. -/
theorem unit_of_sequence {lead : UInt8} {more : Bytes} {number : Nat}
    (h : Sequence (lead :: more) number) (after : Bytes) :
    unit lead (more ++ after) = (some (Char.ofNat number), more.length) := by
  cases h with
  | one hlead =>
      have hlength : sequenceLength lead = 1 := by
        rw [sequenceLength_eq, if_pos hlead]
      simp [unit, hlength]
  | two hlow hhigh hb =>
      have hlength : sequenceLength lead = 2 := by
        rw [sequenceLength_eq, if_neg (by omega), if_pos ⟨hlow, hhigh⟩]
      simp [unit, hlength, isContinuation_iff.mpr hb, payload]
  | three hlow hhigh hb hc =>
      have hlength : sequenceLength lead = 3 := by
        rw [sequenceLength_eq, if_neg (by omega), if_neg (by omega), if_pos ⟨hlow, hhigh⟩]
      simp only [unit, hlength, List.cons_append, mem_secondRange_iff.mpr hb,
        isContinuation_iff.mpr hc, payload, if_true]
      rfl
  | four hlow hhigh hb hc hd =>
      have hlength : sequenceLength lead = 4 := by
        rw [sequenceLength_eq, if_neg (by omega), if_neg (by omega), if_neg (by omega),
          if_pos ⟨hlow, hhigh⟩]
      simp only [unit, hlength, List.cons_append, mem_secondRange_iff.mpr hb,
        isContinuation_iff.mpr hc, isContinuation_iff.mpr hd, payload, if_true]
      rfl

/-- Only a sequence is read as a scalar. -/
theorem sequence_of_unit {lead : UInt8} {rest : Bytes} {scalar : Char} {count : Nat}
    (h : unit lead rest = (some scalar, count)) :
    ∃ more after number, rest = more ++ after ∧ more.length = count ∧
      scalar = Char.ofNat number ∧ Sequence (lead :: more) number := by
  rcases bounds_of_sequenceLength lead with ⟨hone, htwo, hthree, hfour⟩
  unfold unit at h
  dsimp only at h
  -- Along the lengths. In the cases left out the bytes end within the sequence, or none begins.
  split at h
  · next hlength =>
    cases h
    exact ⟨[], _, _, rfl, rfl, rfl, .one (hone hlength)⟩
  · next b after hlength =>
    split_ifs at h with hb
    · cases h
      rcases htwo hlength with ⟨hlow, hhigh⟩
      exact ⟨[b], after, _, rfl, rfl, rfl, .two hlow hhigh (isContinuation_iff.mp hb)⟩
    · cases h
  · next b c after hlength =>
    split_ifs at h with hb hc
    · cases h
      rcases hthree hlength with ⟨hlow, hhigh⟩
      exact ⟨[b, c], after, _, rfl, rfl, rfl,
        .three hlow hhigh (mem_secondRange_iff.mp hb) (isContinuation_iff.mp hc)⟩
    · cases h
    · cases h
  · cases h
  · next b c d after hlength =>
    split_ifs at h with hb hc hd
    · cases h
      rcases hfour hlength with ⟨hlow, hhigh⟩
      exact ⟨[b, c, d], after, _, rfl, rfl, rfl, .four hlow hhigh (mem_secondRange_iff.mp hb)
        (isContinuation_iff.mp hc) (isContinuation_iff.mp hd)⟩
    · cases h
    · cases h
    · cases h
  · cases h
  · cases h
  · cases h

/-! ## How a character is encoded -/

theorem toNat_ofNat_of_lt {n : Nat} (hn : n < 256) : (UInt8.ofNat n).toNat = n :=
  UInt8.toNat_ofNat_of_lt' hn

/-- The byte that carries the low six bits of a number. -/
theorem toNat_tail (n : Nat) : (UInt8.ofNat (n % 64 + 128)).toNat = n % 64 + 128 :=
  toNat_ofNat_of_lt (by omega)

theorem isTail_tail (n : Nat) : IsTail (UInt8.ofNat (n % 64 + 128)) := by
  rw [IsTail, toNat_tail]
  omega

theorem sequence_encode (scalar : Char) :
    Sequence (String.utf8EncodeChar scalar) scalar.toNat := by
  have hvalid : scalar.val.toNat.isValidChar := scalar.valid
  change Sequence (String.utf8EncodeChar scalar) scalar.val.toNat
  unfold String.utf8EncodeChar
  unfold Nat.isValidChar at hvalid
  generalize scalar.val.toNat = v at hvalid ⊢
  dsimp only
  -- Along the lengths. In each case the number is put together again from the bytes.
  split_ifs with hone htwo hthree
  · have hlead := toNat_ofNat_of_lt (show v < 256 by omega)
    have hsequence : Sequence [UInt8.ofNat v] _ := .one (by omega)
    rwa [hlead] at hsequence
  · have hlead := toNat_ofNat_of_lt (show v / 64 % 32 + 192 < 256 by omega)
    have hsequence : Sequence [UInt8.ofNat (v / 64 % 32 + 192), UInt8.ofNat (v % 64 + 128)] _ :=
      .two (by omega) (by omega) (isTail_tail v)
    have hnumber : (v / 64 % 32 + 192) % 32 * 64 + (v % 64 + 128) % 64 = v := by omega
    rwa [hlead, toNat_tail, hnumber] at hsequence
  · have hlead := toNat_ofNat_of_lt (show v / 4096 % 16 + 224 < 256 by omega)
    have hsecond : IsSecond (UInt8.ofNat (v / 4096 % 16 + 224))
        (UInt8.ofNat (v / 64 % 64 + 128)) := by
      refine ⟨isTail_tail (v / 64), ?_⟩
      rw [hlead, toNat_tail]
      omega
    have hsequence : Sequence [UInt8.ofNat (v / 4096 % 16 + 224),
        UInt8.ofNat (v / 64 % 64 + 128), UInt8.ofNat (v % 64 + 128)] _ :=
      .three (by omega) (by omega) hsecond (isTail_tail v)
    have hnumber : ((v / 4096 % 16 + 224) % 16 * 64 + (v / 64 % 64 + 128) % 64) * 64 +
        (v % 64 + 128) % 64 = v := by omega
    rwa [hlead, toNat_tail, toNat_tail, hnumber] at hsequence
  · have hlead := toNat_ofNat_of_lt (show v / 262144 % 8 + 240 < 256 by omega)
    have hsecond : IsSecond (UInt8.ofNat (v / 262144 % 8 + 240))
        (UInt8.ofNat (v / 4096 % 64 + 128)) := by
      refine ⟨isTail_tail (v / 4096), ?_⟩
      rw [hlead, toNat_tail]
      omega
    have hsequence : Sequence [UInt8.ofNat (v / 262144 % 8 + 240),
        UInt8.ofNat (v / 4096 % 64 + 128), UInt8.ofNat (v / 64 % 64 + 128),
        UInt8.ofNat (v % 64 + 128)] _ :=
      .four (by omega) (by omega) hsecond (isTail_tail (v / 64)) (isTail_tail v)
    have hnumber : (((v / 262144 % 8 + 240) % 8 * 64 + (v / 4096 % 64 + 128) % 64) * 64 +
        (v / 64 % 64 + 128) % 64) * 64 + (v % 64 + 128) % 64 = v := by omega
    rwa [hlead, toNat_tail, toNat_tail, toNat_tail, hnumber] at hsequence

/-- A sequence is the encoding of the scalar that it stands for. -/
theorem encode_of_sequence {bytes : Bytes} {number : Nat} (h : Sequence bytes number) :
    String.utf8EncodeChar (Char.ofNat number) = bytes := by
  have hnumber (hvalid : number.isValidChar) : (Char.ofNat number).val.toNat = number := by
    rw [Char.ofNat, dif_pos hvalid]
    rfl
  have hbyte {byte : UInt8} {n : Nat} (hn : n = byte.toNat) : UInt8.ofNat n = byte := by
    rw [hn, UInt8.ofNat_toNat]
  unfold Nat.isValidChar at hnumber
  unfold String.utf8EncodeChar
  cases h with
  | @one lead hlead =>
      rw [hnumber (by omega)]
      dsimp only
      rw [if_pos (by omega), hbyte rfl]
  | @two lead b hlow hhigh hb =>
      unfold IsTail at hb
      rw [hnumber (by omega)]
      dsimp only
      rw [if_neg (by omega), if_pos (by omega), @hbyte lead _ (by omega), @hbyte b _ (by omega)]
  | @three lead b c hlow hhigh hb hc =>
      unfold IsSecond at hb
      unfold IsTail at hb hc
      rw [hnumber (by omega)]
      dsimp only
      rw [if_neg (by omega), if_neg (by omega), if_pos (by omega), @hbyte lead _ (by omega),
        @hbyte b _ (by omega), @hbyte c _ (by omega)]
  | @four lead b c d hlow hhigh hb hc hd =>
      unfold IsSecond at hb
      unfold IsTail at hb hc hd
      rw [hnumber (by omega)]
      dsimp only
      rw [if_neg (by omega), if_neg (by omega), if_neg (by omega), @hbyte lead _ (by omega),
        @hbyte b _ (by omega), @hbyte c _ (by omega), @hbyte d _ (by omega)]

/-! ## Texts -/

theorem unitsOnto_eq (done : List (Option Char)) (bytes : Bytes) :
    unitsOnto done bytes = (units bytes).reverse ++ done := by
  have happend (more : List (Option Char)) (bytes : Bytes) (done : List (Option Char)) :
      unitsOnto (done ++ more) bytes = unitsOnto done bytes ++ more := by
    fun_induction unitsOnto done bytes with
    | case1 done =>
        rw [unitsOnto]
    | case2 done lead rest ih =>
        rw [unitsOnto]
        exact ih
  rw [units, List.reverse_reverse]
  exact happend done bytes []

@[simp] theorem units_nil : units [] = [] := by
  rw [units, unitsOnto]
  rfl

theorem units_cons (lead : UInt8) (rest : Bytes) :
    units (lead :: rest) = (unit lead rest).1 :: units (rest.drop (unit lead rest).2) := by
  rw [units, unitsOnto, unitsOnto_eq, List.reverse_append, List.reverse_reverse]
  rfl

theorem units_encode_append (scalar : Char) (after : Bytes) :
    units (String.utf8EncodeChar scalar ++ after) = some scalar :: units after := by
  have hsequence := sequence_encode scalar
  rcases hbytes : String.utf8EncodeChar scalar with _ | ⟨lead, more⟩
  · rw [hbytes] at hsequence
    cases hsequence
  · rw [hbytes] at hsequence
    have hunit := unit_of_sequence hsequence after
    rw [Char.ofNat_toNat] at hunit
    rw [List.cons_append, units_cons, hunit, List.drop_left]

/-- The units of a byte string are all scalars exactly if it is their encoding. -/
theorem units_eq_map_some_iff {bytes : Bytes} {scalars : List Char} :
    units bytes = scalars.map some ↔ scalars.flatMap String.utf8EncodeChar = bytes := by
  induction scalars generalizing bytes with
  | nil =>
      cases bytes with
      | nil =>
          simp
      | cons lead rest =>
          simp [units_cons]
  | cons scalar later ih =>
      rw [List.map_cons, List.flatMap_cons]
      constructor
      · intro hunits
        rcases bytes with _ | ⟨lead, rest⟩
        · simp at hunits
        rw [units_cons, List.cons.injEq] at hunits
        have hunit : unit lead rest = (some scalar, (unit lead rest).2) := by
          rw [← hunits.1]
        rcases sequence_of_unit hunit with ⟨more, after, number, rfl, hcount, rfl, hsequence⟩
        have hlater := hunits.2
        rw [← hcount, List.drop_left] at hlater
        rw [encode_of_sequence hsequence, ih.mp hlater]
        rfl
      · rintro rfl
        rw [units_encode_append, ih.mpr rfl]

theorem ofString_ofList (scalars : List Char) :
    Bytes.ofString (String.ofList scalars) = scalars.flatMap String.utf8EncodeChar := by
  rw [Bytes.ofString, String.toByteArray_ofList]
  exact List.toList_data_toByteArray

theorem utf8EncodeChar_of_ascii {scalar : Char} (hascii : scalar.toNat < 128) :
    String.utf8EncodeChar scalar = [UInt8.ofNat scalar.toNat] := by
  have hvalue : scalar.val.toNat ≤ 127 := Nat.le_of_lt_succ hascii
  simp only [String.utf8EncodeChar, if_pos hvalue]
  rfl

/-- Of a text in ASCII each character is one byte. -/
theorem ofString_of_ascii {text : String} (hascii : ∀ scalar ∈ text.toList, scalar.toNat < 128) :
    Bytes.ofString text = text.toList.map fun scalar => UInt8.ofNat scalar.toNat := by
  calc Bytes.ofString text
      = text.toList.flatMap String.utf8EncodeChar := by
        rw [← ofString_ofList, String.ofList_toList]
    _ = text.toList.flatMap fun scalar => [UInt8.ofNat scalar.toNat] :=
        List.flatMap_congr fun scalar hscalar => utf8EncodeChar_of_ascii (hascii scalar hscalar)
    _ = text.toList.map fun scalar => UInt8.ofNat scalar.toNat := List.map_eq_flatMap.symm

theorem units_ofString (text : String) : units (Bytes.ofString text) = text.toList.map some := by
  rw [units_eq_map_some_iff, ← ofString_ofList, String.ofList_toList]

/-- The strict reading yields a text exactly on the bytes that encode it. -/
theorem decode?_eq_some_iff {bytes : Bytes} {text : String} :
    decode? bytes = some text ↔ Bytes.ofString text = bytes := by
  constructor
  · intro hdecode
    unfold decode? at hdecode
    dsimp only at hdecode
    split_ifs at hdecode with hall
    cases hdecode
    rw [ofString_ofList, ← units_eq_map_some_iff]
    have hsome : ∀ part ∈ units bytes, (id part).map some = some part := by
      intro part hpart
      rcases Option.isSome_iff_exists.mp (List.all_eq_true.mp hall part hpart) with ⟨_, rfl⟩
      rfl
    rw [List.map_filterMap, List.filterMap_congr hsome, List.filterMap_some]
  · rintro rfl
    have hunits := units_ofString text
    simp [decode?, hunits]

theorem decode?_eq_none_iff {bytes : Bytes} : decode? bytes = none ↔ ¬ IsText bytes := by
  rw [Option.eq_none_iff_forall_ne_some]
  simp only [ne_eq, decode?_eq_some_iff, IsText, not_exists]

theorem decodeLossy_ofString (text : String) : decodeLossy (Bytes.ofString text) = text := by
  rw [decodeLossy, units_ofString, List.map_map]
  simp [Function.comp_def]

end EmulatorHost.Utf8
