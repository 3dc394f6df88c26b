import EmulatorHost.Proofs.Adb.Reading
import Mathlib.Data.List.Forall2
import Mathlib.Data.Nat.Digits.Defs

/-!
# What counts as a length

The length of a message stands before it, in four bytes. Four hexadecimal digits are a length; so
are, as the digits are read as a numeral of any width, a plus sign and three of them. `Announces`
says which four bytes are taken for which length. The main statement is `readMessage_by_digits`.
-/

namespace EmulatorHost.Adb.Exchange

/-! ## Hexadecimal numerals -/

/-- The bytes `0` to `9`, `A` to `F` and `a` to `f`, with their values. -/
def IsHexDigit (byte : UInt8) (value : Nat) : Prop :=
  (0x30 ≤ byte ∧ byte ≤ 0x39 ∧ value = byte.toNat - 0x30) ∨
    (0x41 ≤ byte ∧ byte ≤ 0x46 ∧ value = byte.toNat - 0x37) ∨
    (0x61 ≤ byte ∧ byte ≤ 0x66 ∧ value = byte.toNat - 0x57)

/-- The bytes are hexadecimal digits, most significant first, and this is their number. -/
def SpellsHex (digits : Bytes) (number : Nat) : Prop :=
  ∃ values, List.Forall₂ IsHexDigit digits values ∧ number = Nat.ofDigits 16 values.reverse

inductive Announces : Bytes → Nat → Prop where
  -- Four bytes that are taken for a length.
  | digits {digits : Bytes} {length : Nat} (hfour : digits.length = 4)
      (hspells : SpellsHex digits length) : Announces digits length
  -- A plus sign takes the place of the first digit.
  | signed {digits : Bytes} {length : Nat} (hthree : digits.length = 3)
      (hspells : SpellsHex digits length) : Announces (0x2b :: digits) length

theorem lt_of_isHexDigit {byte : UInt8} {value : Nat} (hdigit : IsHexDigit byte value) :
    value < 16 := by
  simp only [IsHexDigit, UInt8.le_iff_toNat_le, UInt8.reduceToNat] at hdigit
  omega

theorem toNat_charOfByte (byte : UInt8) : (Char.ofNat byte.toNat).toNat = byte.toNat := by
  have hbyte : byte.toNat < 256 := byte.toNat_lt
  have hvalid : byte.toNat.isValidChar := Or.inl (Nat.lt_trans hbyte (by decide))
  rw [Char.ofNat, dif_pos hvalid]
  rfl

theorem digit?_eq_some_iff {byte : UInt8} {value : Nat} :
    Numeral.digit? 16 (Char.ofNat byte.toNat) = some value ↔ IsHexDigit byte value := by
  simp only [Numeral.digit?, toNat_charOfByte, IsHexDigit, UInt8.le_iff_toNat_le,
    UInt8.reduceToNat, Bool.and_eq_true, decide_eq_true_eq]
  -- Of the three ranges of letters and digits, those of the letters reach beyond the radix.
  split_ifs <;> simp only [Option.some.injEq, false_iff] <;> omega

/-- Digits that follow others are worth their value below those. -/
theorem digitsFrom?_eq_some_iff {digits : Bytes} {before number : Nat} :
    Numeral.digitsFrom? 16 before (digits.map fun byte => Char.ofNat byte.toNat) = some number ↔
      ∃ values, List.Forall₂ IsHexDigit digits values ∧
        number = values.foldl (fun number value => number * 16 + value) before := by
  induction digits generalizing before with
  | nil =>
      constructor
      · intro hread
        cases hread
        exact ⟨[], .nil, rfl⟩
      · rintro ⟨values, hvalues, rfl⟩
        cases hvalues
        rfl
  | cons byte rest ih =>
      rw [List.map_cons, Numeral.digitsFrom?]
      constructor
      · intro hread
        split at hread
        · rename_i value hvalue
          rcases ih.mp hread with ⟨values, hvalues, hnumber⟩
          exact ⟨value :: values, .cons (digit?_eq_some_iff.mp hvalue) hvalues, hnumber⟩
        · cases hread
      · rintro ⟨values, hvalues, rfl⟩
        cases hvalues with
        | cons hvalue hvalues =>
            rw [digit?_eq_some_iff.mpr hvalue]
            exact ih.mpr ⟨_, hvalues, rfl⟩

theorem digits?_eq_some_iff {digits : Bytes} (hsome : digits ≠ []) {number : Nat} :
    Numeral.digits? 16 (digits.map fun byte => Char.ofNat byte.toNat) = some number ↔
      SpellsHex digits number := by
  have hhorner (values : List Nat) :
      Nat.ofDigits 16 values.reverse =
        values.foldl (fun number value => number * 16 + value) 0 := by
    rw [Nat.ofDigits_eq_foldr, List.foldr_reverse]
    congr 1
    funext number value
    simp [Nat.add_comm, Nat.mul_comm]
  cases digits with
  | nil =>
      exact absurd rfl hsome
  | cons byte rest =>
      simp only [SpellsHex, hhorner]
      exact digitsFrom?_eq_some_iff

theorem lt_of_spellsHex {digits : Bytes} {number : Nat} (hspells : SpellsHex digits number) :
    number < 16 ^ digits.length := by
  rcases hspells with ⟨values, hvalues, rfl⟩
  have hlength : values.reverse.length = digits.length := by
    rw [List.length_reverse, hvalues.length_eq]
  have hsmall : ∀ value ∈ values, value < 16 := by
    have hboth := hvalues.flip.imp fun value byte hdigit => And.intro (lt_of_isHexDigit hdigit) hdigit
    exact ((List.forall₂_and_left _ _).mp hboth).1
  rw [← hlength]
  apply Nat.ofDigits_lt_base_pow_length (by decide)
  intro value hvalue
  exact hsmall value (List.mem_reverse.mp hvalue)

/-! ## Four bytes -/

theorem unsigned?_of_digit {c : Char} (hdigit : c ≠ '+') (radix : Nat) (rest : List Char) :
    Numeral.unsigned? radix (c :: rest) = Numeral.digits? radix (c :: rest) := by
  unfold Numeral.unsigned?
  split
  · rename_i hsign
    cases hsign
    exact absurd rfl hdigit
  · rfl

/-- A plus sign is no digit. -/
theorem not_spellsHex_signed (rest : Bytes) (number : Nat) : ¬ SpellsHex (0x2b :: rest) number := by
  rintro ⟨values, hvalues, -⟩
  cases hvalues with
  | cons hsign hrest =>
      revert hsign
      simp [IsHexDigit]

theorem announces_signed_iff {digits : Bytes} (hthree : digits.length = 3) {length : Nat} :
    Announces (0x2b :: digits) length ↔ SpellsHex digits length := by
  constructor
  · intro hannounces
    cases hannounces with
    | digits hfour hspells =>
        exact absurd hspells (not_spellsHex_signed digits length)
    | signed hthree hspells =>
        exact hspells
  · intro hspells
    exact .signed hthree hspells

/-- Without a sign all four bytes have to be digits. -/
theorem spellsHex_iff_announces {digits : Bytes} (hfour : digits.length = 4) {length : Nat} :
    SpellsHex digits length ↔ Announces digits length ∧ digits.head? ≠ some 0x2b := by
  constructor
  · intro hspells
    refine ⟨.digits hfour hspells, ?_⟩
    intro hsign
    rcases List.head?_eq_some_iff.mp hsign with ⟨rest, rfl⟩
    exact not_spellsHex_signed rest length hspells
  · rintro ⟨hannounces, hsign⟩
    cases hannounces with
    | digits hfour hspells =>
        exact hspells
    | signed =>
        exact absurd rfl hsign

theorem announcedLength?_eq_some_iff {digits : Bytes} (hfour : digits.length = 4) {length : Nat} :
    announcedLength? digits = some length ↔ Announces digits length := by
  rcases digits with _ | ⟨byte, rest⟩
  · cases hfour
  · have hthree : rest.length = 3 := Nat.succ.inj hfour
    have hsome : rest ≠ [] := by
      rintro rfl
      cases hthree
    by_cases hsign : byte = 0x2b
    · subst hsign
      rw [announces_signed_iff hthree]
      exact digits?_eq_some_iff hsome
    · have hchar : Char.ofNat byte.toNat ≠ '+' := by
        intro hplus
        have hcode : byte.toNat = '+'.toNat := by rw [← hplus, toNat_charOfByte]
        exact hsign (UInt8.toNat_inj.mp hcode)
      have hunsigned : (byte :: rest).head? ≠ some 0x2b := by
        intro hplus
        exact hsign (Option.some.inj hplus)
      have hall : Announces (byte :: rest) length ↔ SpellsHex (byte :: rest) length := by
        rw [spellsHex_iff_announces hfour]
        exact (and_iff_left hunsigned).symm
      rw [hall, announcedLength?, List.map_cons, unsigned?_of_digit hchar]
      exact digits?_eq_some_iff (List.cons_ne_nil byte rest)

/-- No four bytes announce more than a message may have. -/
theorem le_of_announces {digits : Bytes} {length : Nat} (hannounces : Announces digits length) :
    length ≤ maxMessageLength := by
  cases hannounces with
  | digits hfour hspells =>
      have hlt := lt_of_spellsHex hspells
      rw [hfour] at hlt
      exact Nat.le_of_lt_succ hlt
  | signed hthree hspells =>
      have hlt := lt_of_spellsHex hspells
      rw [hthree] at hlt
      exact Nat.le_of_lt (Nat.lt_trans hlt (by decide))

theorem length_of_announces {digits : Bytes} {length : Nat} (hannounces : Announces digits length) :
    digits.length = 4 := by
  cases hannounces with
  | digits hfour hspells =>
      exact hfour
  | signed hthree hspells =>
      exact congrArg Nat.succ hthree

/-- Four bytes announce one length at most. -/
theorem announces_unique {digits : Bytes} {length other : Nat} (hlength : Announces digits length)
    (hother : Announces digits other) : length = other := by
  have hfour := length_of_announces hlength
  rw [← announcedLength?_eq_some_iff hfour] at hlength hother
  rw [hlength] at hother
  exact Option.some.inj hother

/-! ## Messages -/

variable {connection : Connection} {digits rest : Bytes}

/-- Four bytes that announce a length are taken off, and then as many bytes are read. -/
theorem on_readMessage_of_announces {length : Nat} (hopen : connection.isOpen = true)
    (hbytes : connection.source.bytes = digits ++ rest) (hannounces : Announces digits length) :
    ∃ after, connection.Onward rest after ∧
      readMessage.on connection = (readRaw length).on after := by
  have hfour := length_of_announces hannounces
  rcases on_readRaw_of_append hopen hbytes hfour with ⟨after, hafter, hread⟩
  refine ⟨after, hafter, ?_⟩
  rw [readMessage, on_bind_of_ok hread, (announcedLength?_eq_some_iff hfour).mpr hannounces]
  dsimp only
  rw [readBlock, if_pos (le_of_announces hannounces)]

/-- Of a message whose length cannot be read, nothing but the four bytes is taken off. -/
theorem on_readMessage_of_unreadable (hopen : connection.isOpen = true)
    (hfour : digits.length = 4) (hbytes : connection.source.bytes = digits ++ rest)
    (hunreadable : ∀ length, ¬ Announces digits length) :
    ∃ left, readMessage.on connection =
        (.error (.framing ("invalid length prefix " ++ Text.quoted (Utf8.decodeLossy digits))),
          left) ∧
      left.isOpen = false ∧ left.source.bytes = rest := by
  have hnone : announcedLength? digits = none := by
    apply Option.eq_none_iff_forall_ne_some.mpr
    intro length hlength
    exact hunreadable length ((announcedLength?_eq_some_iff hfour).mp hlength)
  rcases on_readRaw_of_append hopen hbytes hfour with ⟨after, hafter, hread⟩
  refine ⟨{ after with isOpen := false }, ?_, rfl, hafter.bytes⟩
  rw [readMessage, on_bind_of_ok hread, hnone]
  rfl

theorem on_readMessage_of_missing (hopen : connection.isOpen = true)
    (hshort : connection.source.bytes.length < 4) :
    ∃ left, readMessage.on connection =
        (.error (.io connection.source.ending.shortRead), left) ∧ left.isOpen = false := by
  rcases on_readRaw_of_short hopen hshort with ⟨left, hread, hclosed⟩
  exact ⟨left, on_bind_of_error hread _, hclosed⟩

theorem on_readMessage_of_whole {message : Bytes} (hopen : connection.isOpen = true)
    (hannounces : Announces digits message.length)
    (hbytes : connection.source.bytes = digits ++ (message ++ rest)) :
    ∃ left, connection.Onward rest left ∧ readMessage.on connection = (.ok message, left) := by
  rcases on_readMessage_of_announces hopen hbytes hannounces with ⟨after, hafter, hread⟩
  rcases on_readRaw_of_append hafter.isOpen hafter.bytes rfl with ⟨left, hleft, hmessage⟩
  exact ⟨left, hafter.trans hleft, hread.trans hmessage⟩

theorem on_readMessage_of_cut {length : Nat} (hopen : connection.isOpen = true)
    (hannounces : Announces digits length) (hbytes : connection.source.bytes = digits ++ rest)
    (hshort : rest.length < length) :
    ∃ left, readMessage.on connection =
        (.error (.io connection.source.ending.shortRead), left) ∧ left.isOpen = false := by
  rcases on_readMessage_of_announces hopen hbytes hannounces with ⟨after, hafter, hread⟩
  rcases on_readRaw_of_cut hafter hshort with ⟨left, hfail, hclosed⟩
  exact ⟨left, hread.trans hfail, hclosed⟩

/-- A message is read by the four bytes before it. Where they announce a length, as many bytes are
read after them, and no length is too large. All other four bytes are refused and the connection is
closed, with nothing taken off after them. Hexadecimal digits are the bytes that announce a length
and do not begin with a plus sign. -/
theorem readMessage_by_digits (connection : Connection) (hopen : connection.isOpen = true) :
    (connection.source.bytes.length < 4 →
      ∃ left, readMessage.on connection =
          (.error (.io connection.source.ending.shortRead), left) ∧ left.isOpen = false) ∧
    ∀ digits rest, digits.length = 4 → connection.source.bytes = digits ++ rest →
      (∀ length, Announces digits length →
        (length ≤ rest.length →
          ∃ left, connection.Onward (rest.drop length) left ∧
            readMessage.on connection = (.ok (rest.take length), left)) ∧
        (rest.length < length →
          ∃ left, readMessage.on connection =
              (.error (.io connection.source.ending.shortRead), left) ∧ left.isOpen = false)) ∧
      ((∀ length, ¬ Announces digits length) →
        ∃ left, readMessage.on connection =
            (.error (.framing ("invalid length prefix " ++
              Text.quoted (Utf8.decodeLossy digits))), left) ∧
          left.isOpen = false ∧ left.source.bytes = rest) ∧
      ∀ length, SpellsHex digits length ↔
        Announces digits length ∧ digits.head? ≠ some 0x2b := by
  refine ⟨on_readMessage_of_missing hopen, ?_⟩
  intro digits rest hfour hbytes
  refine ⟨?_, on_readMessage_of_unreadable hopen hfour hbytes, ?_⟩
  · intro length hannounces
    refine ⟨?_, on_readMessage_of_cut hopen hannounces hbytes⟩
    intro hthere
    have hlength : (rest.take length).length = length := List.length_take_of_le hthere
    apply on_readMessage_of_whole hopen
    · rw [hlength]
      exact hannounces
    · rw [hbytes, List.take_append_drop]
  · intro length
    exact spellsHex_iff_announces hfour

/-- A peer that sends a plus sign and three digits for a length, in pieces. -/
def signedLength : Connection :=
  .ofPeer ⟨[Bytes.ofString "+0", Bytes.ofString "02hi!"], .finished⟩ .unlimited

theorem announces_signedLength : Announces (Bytes.ofString "+002") 2 := by
  apply Announces.signed (by decide)
  refine ⟨[0, 0, 2], ?_, by simp [Nat.ofDigits]⟩
  refine .cons ?_ (.cons ?_ (.cons ?_ .nil)) <;> simp [IsHexDigit]

/-- Three digits after a plus sign are a length, three after a blank are not. -/
theorem readMessage_by_digits_signedLength :
    let blank := Connection.ofPeer ⟨[Bytes.ofString " 002hi!"], .finished⟩ .unlimited
    (∃ left, signedLength.Onward (Bytes.ofString "!") left ∧
        readMessage.on signedLength = (.ok (Bytes.ofString "hi"), left)) ∧
      ∃ left, readMessage.on blank = (.error (.framing "invalid length prefix \" 002\""), left) ∧
        left.isOpen = false ∧ left.source.bytes = Bytes.ofString "hi!" := by
  intro blank
  have hblank : ∀ length, ¬ Announces (Bytes.ofString " 002") length := by
    intro length hannounces
    have hnone : announcedLength? (Bytes.ofString " 002") = none := by decide
    rw [(announcedLength?_eq_some_iff (by decide)).mpr hannounces] at hnone
    cases hnone
  rcases readMessage_by_digits signedLength rfl with ⟨-, hsigned⟩
  rcases readMessage_by_digits blank rfl with ⟨-, hrefused⟩
  constructor
  · rcases hsigned (Bytes.ofString "+002") (Bytes.ofString "hi!") (by decide) (by decide)
      with ⟨hread, -⟩
    rcases hread 2 announces_signedLength with ⟨hwhole, -⟩
    exact hwhole (by decide)
  · rcases hrefused (Bytes.ofString " 002") (Bytes.ofString "hi!") (by decide) (by decide)
      with ⟨-, hunreadable, -⟩
    have htext : "invalid length prefix " ++ Text.quoted (Utf8.decodeLossy (Bytes.ofString " 002")) =
        "invalid length prefix \" 002\"" := by decide +kernel
    rw [← htext]
    exact hunreadable hblank

/-- It is not only digits that are taken for a length. -/
theorem signedLength_is_read :
    ¬ ∀ (connection : Connection) (digits rest : Bytes), connection.isOpen = true →
      digits.length = 4 → connection.source.bytes = digits ++ rest →
      (∀ length, ¬ SpellsHex digits length) →
      ∃ detail left, readMessage.on connection = (.error (.framing detail), left) ∧
        left.isOpen = false ∧ left.source.bytes = rest := by
  intro hclaim
  have hnone : ∀ length, ¬ SpellsHex (Bytes.ofString "+002") length :=
    not_spellsHex_signed (Bytes.ofString "002")
  rcases hclaim signedLength (Bytes.ofString "+002") (Bytes.ofString "hi!") rfl (by decide)
      (by decide) hnone with ⟨detail, left, hrefused, -, -⟩
  have hread : (readMessage.on signedLength).1 = .ok (Bytes.ofString "hi") := by decide
  rw [hrefused] at hread
  cases hread

end EmulatorHost.Adb.Exchange
