import EmulatorHost.Bytes

/-!
# Items written one after another

Items of which each says where it ends can be read back from a stream, whatever follows them. A byte
string begins with as many whole items as can be, and there is one way only to see it so
(`exists_split`, `Split.unique`).
-/

namespace EmulatorHost.Bytes

theorem exists_front {bytes : Bytes} {count : Nat} (hlength : count ≤ bytes.length) :
    ∃ front rest, front.length = count ∧ bytes = front ++ rest :=
  ⟨bytes.take count, bytes.drop count, List.length_take_of_le hlength,
    (List.take_append_drop count bytes).symm⟩

variable {α : Type} {encode : α → Bytes}

/-- An item takes at least one byte, and no item is the beginning of another one. -/
structure SelfDelimiting (encode : α → Bytes) : Prop where
  nonempty : ∀ item, encode item ≠ []
  inj : ∀ {one other : α} {after rest : Bytes},
    encode one ++ after = encode other ++ rest → one = other ∧ after = rest

/-- A byte string is these items, and then a rest that begins with no further item. -/
structure Split (encode : α → Bytes) (bytes : Bytes) (items : List α) (rest : Bytes) : Prop where
  bytes_eq : bytes = items.flatMap encode ++ rest
  ended : ∀ item after, rest ≠ encode item ++ after

theorem Split.cons {bytes rest : Bytes} {items : List α} (hsplit : Split encode bytes items rest)
    (item : α) : Split encode (encode item ++ bytes) (item :: items) rest where
  bytes_eq := by
    rw [List.flatMap_cons, List.append_assoc, ← hsplit.bytes_eq]
  ended := hsplit.ended

theorem Split.nil {rest : Bytes} (hended : ∀ item after, rest ≠ encode item ++ after) :
    Split encode rest [] rest where
  bytes_eq := rfl
  ended := hended

/-- Every byte string begins with as many items as can be. -/
theorem exists_split (hencode : SelfDelimiting encode) (bytes : Bytes) :
    ∃ items rest, Split encode bytes items rest := by
  -- On the length of the bytes, of which every item takes some.
  induction hlength : bytes.length using Nat.strongRecOn generalizing bytes with
  | ind length ih =>
      by_cases hitem : ∃ item after, bytes = encode item ++ after
      · rcases hitem with ⟨item, after, hbytes⟩
        have hpos : 0 < (encode item).length :=
          List.length_pos_iff.2 (hencode.nonempty item)
        have hshorter : after.length < length := by
          rw [← hlength, hbytes, List.length_append]
          omega
        rcases ih after.length hshorter after rfl with ⟨items, rest, hsplit⟩
        exact ⟨item :: items, rest, hbytes ▸ hsplit.cons item⟩
      · have hended : ∀ item after, bytes ≠ encode item ++ after := by
          intro item after hbytes
          exact hitem ⟨item, after, hbytes⟩
        exact ⟨[], bytes, .nil hended⟩

/-- There is one way only to see a byte string as items and a rest that begins with none. -/
theorem Split.unique (hencode : SelfDelimiting encode) {bytes rest rest' : Bytes}
    {items items' : List α} (hsplit : Split encode bytes items rest)
    (hsplit' : Split encode bytes items' rest') : items = items' ∧ rest = rest' := by
  have hsame : items.flatMap encode ++ rest = items'.flatMap encode ++ rest' :=
    hsplit.bytes_eq.symm.trans hsplit'.bytes_eq
  have hended := hsplit.ended
  have hended' := hsplit'.ended
  clear hsplit hsplit'
  -- On the items of the first reading. Neither reading can stop where the other finds an item.
  induction items generalizing items' with
  | nil =>
      cases items' with
      | nil =>
          exact ⟨rfl, by simpa using hsame⟩
      | cons item later =>
          exact absurd (by simpa using hsame) (hended item (later.flatMap encode ++ rest'))
  | cons item later ih =>
      cases items' with
      | nil =>
          exact absurd (by simpa using hsame.symm) (hended' item (later.flatMap encode ++ rest))
      | cons item' later' =>
          have hfirst : encode item ++ (later.flatMap encode ++ rest) =
              encode item' ++ (later'.flatMap encode ++ rest') := by
            simpa using hsame
          rcases hencode.inj hfirst with ⟨hitem, hlater⟩
          rcases ih hlater with ⟨hitems, hrest⟩
          exact ⟨by rw [hitem, hitems], hrest⟩

end EmulatorHost.Bytes
