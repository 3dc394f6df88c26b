import EmulatorHost.Bytes

/-!
# UTF-8 text in byte strings

`units` splits a byte string into scalars and maximal ill-formed parts. The lossy reading writes
U+FFFD for each ill-formed part; the strict reading accepts no such part.
-/

namespace EmulatorHost.Utf8

/-- A continuation byte, `10xxxxxx`. -/
def isContinuation (byte : UInt8) : Bool :=
  0x80 ≤ byte && byte ≤ 0xBF

/-- The range that the second byte must lie in, given the first; it excludes overlong forms,
surrogates and scalars above U+10FFFF. -/
def secondRange (lead : UInt8) : UInt8 × UInt8 :=
  if lead == 0xE0 then (0xA0, 0xBF)
  else if lead == 0xED then (0x80, 0x9F)
  else if lead == 0xF0 then (0x90, 0xBF)
  else if lead == 0xF4 then (0x80, 0x8F)
  else (0x80, 0xBF)

/-- How many bytes the sequence opened by this lead byte has; 0 for a byte that opens none. -/
def sequenceLength (lead : UInt8) : Nat :=
  if lead < 0x80 then 1
  else if 0xC2 ≤ lead && lead ≤ 0xDF then 2
  else if 0xE0 ≤ lead && lead ≤ 0xEF then 3
  else if 0xF0 ≤ lead && lead ≤ 0xF4 then 4
  else 0

def payload (byte : UInt8) : Nat :=
  byte.toNat % 64

/-- Reads the unit opened by `lead`: a scalar, or `none` for a maximal ill-formed part, together
with how many of the following bytes belong to it. -/
def unit (lead : UInt8) (rest : Bytes) : Option Char × Nat :=
  let second := secondRange lead
  match sequenceLength lead, rest with
  | 1, _ => (some (Char.ofNat lead.toNat), 0)
  | 2, b :: _ =>
    if isContinuation b then (some (Char.ofNat (lead.toNat % 32 * 64 + payload b)), 1)
    else (none, 0)
  | 3, b :: c :: _ =>
    if second.1 ≤ b && b ≤ second.2 then
      if isContinuation c then
        (some (Char.ofNat ((lead.toNat % 16 * 64 + payload b) * 64 + payload c)), 2)
      else (none, 1)
    else (none, 0)
  -- The bytes end within the sequence; what fits so far is one ill-formed part.
  | 3, [b] => (none, if second.1 ≤ b && b ≤ second.2 then 1 else 0)
  | 4, b :: c :: d :: _ =>
    if second.1 ≤ b && b ≤ second.2 then
      if isContinuation c then
        if isContinuation d then
          (some (Char.ofNat
            (((lead.toNat % 8 * 64 + payload b) * 64 + payload c) * 64 + payload d)), 3)
        else (none, 2)
      else (none, 1)
    else (none, 0)
  | 4, [b, c] =>
    (none, if second.1 ≤ b && b ≤ second.2 then if isContinuation c then 2 else 1 else 0)
  | 4, [b] => (none, if second.1 ≤ b && b ≤ second.2 then 1 else 0)
  | _, _ => (none, 0)

/-- Puts the units of `bytes`, last first, on top of `done`. -/
def unitsOnto (done : List (Option Char)) : Bytes → List (Option Char)
  | [] => done
  | lead :: rest => unitsOnto ((unit lead rest).1 :: done) (rest.drop (unit lead rest).2)
termination_by bytes => bytes.length
decreasing_by
  simp only [List.length_drop, List.length_cons]
  omega

/-- The scalars of a byte string in order, with `none` for each maximal ill-formed part. -/
def units (bytes : Bytes) : List (Option Char) :=
  (unitsOnto [] bytes).reverse

/-- Reads a byte string as text, with U+FFFD for each maximal ill-formed part. -/
def decodeLossy (bytes : Bytes) : String :=
  String.ofList ((units bytes).map (·.getD '\uFFFD'))

/-- Reads a byte string as text, and refuses one that has an ill-formed part. -/
def decode? (bytes : Bytes) : Option String :=
  let parts := units bytes
  if parts.all Option.isSome then some (String.ofList (parts.filterMap id)) else none

end EmulatorHost.Utf8
