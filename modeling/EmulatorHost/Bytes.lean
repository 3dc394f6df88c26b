/-!
# Bytes

Byte strings and the fixed-width little-endian numbers written in them. `leBytes` writes a number
and `leValue` reads one; they are inverse on numbers that fit their width.
-/

namespace EmulatorHost

abbrev Bytes := List UInt8

namespace Bytes

def ofString (text : String) : Bytes :=
  text.toByteArray.data.toList

/-- `width` bytes of a number, least significant first; higher digits are dropped. -/
def leBytes : Nat → Nat → Bytes
  | 0, _ => []
  | width + 1, value => UInt8.ofNat (value % 256) :: leBytes width (value / 256)

/-- The number whose bytes, least significant first, are given. -/
def leValue : Bytes → Nat
  | [] => 0
  | byte :: rest => byte.toNat + 256 * leValue rest

/-- The first number that does not fit `width` bytes. -/
def limit : Nat → Nat
  | 0 => 1
  | width + 1 => 256 * limit width

@[simp] theorem length_leBytes (width value : Nat) : (leBytes width value).length = width := by
  induction width generalizing value with
  | zero => rfl
  | succ width ih => simp [leBytes, ih]

/-- Writing keeps as much of a number as fits the width. -/
theorem leValue_leBytes (width value : Nat) :
    leValue (leBytes width value) = value % limit width := by
  induction width generalizing value with
  | zero => exact (Nat.mod_one value).symm
  | succ width ih =>
    calc leValue (leBytes (width + 1) value)
        = value % 256 + 256 * (value / 256 % limit width) := by simp [leBytes, leValue, ih]
      _ = value % (256 * limit width) := Nat.mod_mul.symm

/-- The number that a byte string holds fits the width of the string. -/
theorem leValue_lt (bytes : Bytes) : leValue bytes < limit bytes.length := by
  induction bytes with
  | nil => exact Nat.one_pos
  | cons byte rest ih =>
    have hbyte : byte.toNat < 256 := byte.toNat_lt
    simp only [leValue, List.length_cons, limit]
    omega

/-- A byte string is recovered from its number and its length. -/
theorem leBytes_leValue (bytes : Bytes) : leBytes bytes.length (leValue bytes) = bytes := by
  induction bytes with
  | nil => rfl
  | cons byte rest ih =>
    have hbyte : byte.toNat < 256 := byte.toNat_lt
    have hmod : (byte.toNat + 256 * leValue rest) % 256 = byte.toNat := by omega
    have hdiv : (byte.toNat + 256 * leValue rest) / 256 = leValue rest := by omega
    simp [leBytes, leValue, hmod, hdiv, ih]

/-- The four bytes of a 32-bit word, least significant first. -/
def ofWord32 (word : UInt32) : Bytes :=
  leBytes 4 word.toNat

/-- The 32-bit word whose bytes are given, least significant first. -/
def toWord32 (bytes : Bytes) : UInt32 :=
  UInt32.ofNat (leValue bytes)

/-- The eight bytes of a 64-bit word, least significant first. -/
def ofWord64 (word : UInt64) : Bytes :=
  leBytes 8 word.toNat

/-- The 64-bit word whose bytes are given, least significant first. -/
def toWord64 (bytes : Bytes) : UInt64 :=
  UInt64.ofNat (leValue bytes)

@[simp] theorem length_ofWord32 (word : UInt32) : (ofWord32 word).length = 4 :=
  length_leBytes 4 word.toNat

@[simp] theorem length_ofWord64 (word : UInt64) : (ofWord64 word).length = 8 :=
  length_leBytes 8 word.toNat

@[simp] theorem toWord32_ofWord32 (word : UInt32) : toWord32 (ofWord32 word) = word := by
  have hfits : word.toNat < limit 4 := word.toNat_lt
  rw [toWord32, ofWord32, leValue_leBytes, Nat.mod_eq_of_lt hfits, UInt32.ofNat_toNat]

theorem toNat_toWord32 {bytes : Bytes} (hlength : bytes.length = 4) :
    (toWord32 bytes).toNat = leValue bytes := by
  have hbound : leValue bytes < UInt32.size := by
    have hfits := leValue_lt bytes
    rw [hlength] at hfits
    exact hfits
  exact UInt32.toNat_ofNat_of_lt' hbound

/-- Four bytes are recovered from their word. -/
theorem ofWord32_toWord32 {bytes : Bytes} (hlength : bytes.length = 4) :
    ofWord32 (toWord32 bytes) = bytes := by
  rw [ofWord32, toNat_toWord32 hlength, ← hlength, leBytes_leValue]

@[simp] theorem toWord64_ofWord64 (word : UInt64) : toWord64 (ofWord64 word) = word := by
  have hfits : word.toNat < limit 8 := word.toNat_lt
  rw [toWord64, ofWord64, leValue_leBytes, Nat.mod_eq_of_lt hfits, UInt64.ofNat_toNat]

theorem toNat_toWord64 {bytes : Bytes} (hlength : bytes.length = 8) :
    (toWord64 bytes).toNat = leValue bytes := by
  have hbound : leValue bytes < UInt64.size := by
    have hfits := leValue_lt bytes
    rw [hlength] at hfits
    exact hfits
  exact UInt64.toNat_ofNat_of_lt' hbound

/-- Eight bytes are recovered from their word. -/
theorem ofWord64_toWord64 {bytes : Bytes} (hlength : bytes.length = 8) :
    ofWord64 (toWord64 bytes) = bytes := by
  rw [ofWord64, toNat_toWord64 hlength, ← hlength, leBytes_leValue]

end Bytes

end EmulatorHost
