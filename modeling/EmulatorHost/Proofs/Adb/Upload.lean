import EmulatorHost.Adb.Sync

/-!
# Uploads as written

The bytes of a whole push, and a reader of them. The reader gives back what a push carries
(`readUpload?_pushBytes`), so no two uploads are written in the same way.
-/

namespace EmulatorHost.Adb.Sync

/-! ## Writing a push -/

/-- The request that opens a push; no flag is set. -/
def pushRequest (path : String) (mode : UInt32) : Bytes :=
  pathRequest .send (Bytes.ofString path) ++
    (Tag.send.bytes ++ Bytes.ofWord32 mode ++ Bytes.ofWord32 0)

/-- A whole push as the file service has it: the request with path, mode and no flags, a frame for
each chunk, and the closing frame. -/
def pushBytes (path : String) (mode : UInt32) (chunks : List Bytes) (mtime : UInt32) : Bytes :=
  Bytes.ofString "SND2" ++ Bytes.leBytes 4 (Bytes.ofString path).length ++ Bytes.ofString path ++
    Bytes.ofString "SND2" ++ Bytes.ofWord32 mode ++ Bytes.ofWord32 0 ++
    chunks.flatMap (fun chunk =>
      Bytes.ofString "DATA" ++ Bytes.leBytes 4 chunk.length ++ chunk) ++
    Bytes.ofString "DONE" ++ Bytes.ofWord32 mtime

theorem pushBytes_eq (path : String) (mode : UInt32) (chunks : List Bytes) (mtime : UInt32) :
    pushBytes path mode chunks mtime =
      pushRequest path mode ++ (chunks.flatMap dataFrame ++ doneFrame mtime) := by
  have hsend : Bytes.ofString "SND2" = Tag.send.bytes := by decide
  have hdata : Bytes.ofString "DATA" = Tag.data.bytes := by decide
  have hdone : Bytes.ofString "DONE" = Tag.done.bytes := by decide
  have hframe : dataFrame = fun chunk =>
      Tag.data.bytes ++ Bytes.leBytes 4 chunk.length ++ chunk := rfl
  simp only [pushBytes, pushRequest, pathRequest, doneFrame, hsend, hdata, hdone, hframe,
    List.append_assoc]

/-! ## Where the parts of a push end -/

theorem leValue_length {bytes : Bytes} (hfits : bytes.length < Bytes.limit 4) :
    Bytes.leValue (Bytes.leBytes 4 bytes.length) = bytes.length := by
  rw [Bytes.leValue_leBytes, Nat.mod_eq_of_lt hfits]

/-- What carries its length says where it ends, whatever comes after it. -/
theorem pathRequest_append_inj {tag : Tag} {one other after rest : Bytes}
    (hone : one.length < Bytes.limit 4) (hother : other.length < Bytes.limit 4)
    (hsame : pathRequest tag one ++ after = pathRequest tag other ++ rest) :
    one = other ∧ after = rest := by
  -- The headers are of the same length, and the number in them is the length of what follows.
  let header (bytes : Bytes) := tag.bytes ++ Bytes.leBytes 4 bytes.length
  have hparts : header one ++ (one ++ after) = header other ++ (other ++ rest) := by
    simpa only [header, pathRequest, List.append_assoc] using hsame
  have hheaders : (header one).length = (header other).length := by simp [header]
  rcases List.append_inj hparts hheaders with ⟨hheader, hpayloads⟩
  have hnumber := List.append_cancel_left hheader
  have hlength : one.length = other.length := by
    rw [← leValue_length hone, hnumber, leValue_length hother]
  exact List.append_inj hpayloads hlength

theorem fromUTF8?_ofString (text : String) :
    String.fromUTF8? ⟨(Bytes.ofString text).toArray⟩ = some text :=
  dif_pos text.isValidUTF8

theorem ofString_inj {one other : String} (hsame : Bytes.ofString one = Bytes.ofString other) :
    one = other := by
  have hread := fromUTF8?_ofString one
  rw [hsame, fromUTF8?_ofString other] at hread
  exact (Option.some.inj hread).symm

theorem ofWord32_inj {one other : UInt32} (hsame : Bytes.ofWord32 one = Bytes.ofWord32 other) :
    one = other := by
  have hread := Bytes.toWord32_ofWord32 one
  rw [hsame, Bytes.toWord32_ofWord32] at hread
  exact hread.symm

theorem pushRequest_append_inj {path path' : String} {mode mode' : UInt32} {after rest : Bytes}
    (hpath : (Bytes.ofString path).length < Bytes.limit 4)
    (hpath' : (Bytes.ofString path').length < Bytes.limit 4)
    (hsame : pushRequest path mode ++ after = pushRequest path' mode' ++ rest) :
    path = path' ∧ mode = mode' ∧ after = rest := by
  unfold pushRequest at hsame
  rw [List.append_assoc, List.append_assoc (pathRequest _ _)] at hsame
  rcases pathRequest_append_inj hpath hpath' hsame with ⟨hbytes, hoptions⟩
  -- The options are of one length.
  have hlength : (Tag.send.bytes ++ Bytes.ofWord32 mode ++ Bytes.ofWord32 0).length =
      (Tag.send.bytes ++ Bytes.ofWord32 mode' ++ Bytes.ofWord32 0).length := by simp
  rcases List.append_inj hoptions hlength with ⟨hflags, hafter⟩
  have hmode := List.append_cancel_left (List.append_cancel_right hflags)
  exact ⟨ofString_inj hbytes, ofWord32_inj hmode, hafter⟩

/-- Frames that come to a closing frame are the only ones that the bytes can be seen as, and nothing
comes after it. -/
theorem frames_append_inj {chunks chunks' : List Bytes} {mtime : UInt32} {closing : Option UInt32}
    {after : Bytes} (hsize : ∀ chunk ∈ chunks, chunk.length < Bytes.limit 4)
    (hsize' : ∀ chunk ∈ chunks', chunk.length < Bytes.limit 4)
    (hsame : chunks.flatMap dataFrame ++ (doneFrame mtime ++ after) =
      chunks'.flatMap dataFrame ++ closing.elim [] doneFrame) :
    chunks = chunks' ∧ closing = some mtime ∧ after = [] := by
  -- On the frames of the first reading. A data frame and a closing frame differ in their letters,
  -- so neither reading can close where the other goes on.
  induction chunks generalizing chunks' with
  | nil =>
      cases chunks' with
      | nil =>
          cases closing with
          | none =>
              simp [doneFrame, Tag.bytes] at hsame
          | some mtime' =>
              have hdone : doneFrame mtime ++ after = doneFrame mtime' ++ [] := by
                simpa using hsame
              have hlength : (doneFrame mtime).length = (doneFrame mtime').length := by
                simp [doneFrame]
              rcases List.append_inj hdone hlength with ⟨hframe, hafter⟩
              have hmtime := ofWord32_inj (List.append_cancel_left hframe)
              exact ⟨rfl, congrArg some hmtime.symm, hafter⟩
      | cons chunk' later' =>
          simp [doneFrame, dataFrame, Tag.bytes] at hsame
  | cons chunk later ih =>
      rw [List.forall_mem_cons] at hsize
      cases chunks' with
      | nil =>
          cases closing <;> simp [doneFrame, dataFrame, Tag.bytes] at hsame
      | cons chunk' later' =>
          rw [List.forall_mem_cons] at hsize'
          rw [List.flatMap_cons, List.flatMap_cons, List.append_assoc, List.append_assoc] at hsame
          rcases pathRequest_append_inj hsize.1 hsize'.1 hsame with ⟨hchunk, hlater⟩
          rcases ih hsize.2 hsize'.2 hlater with ⟨hchunks, hrest⟩
          exact ⟨by rw [hchunk, hchunks], hrest⟩

/-! ## Reading a push -/

structure Upload where
  path : String
  mode : UInt32
  flags : UInt32
  content : Bytes
  mtime : UInt32
deriving DecidableEq, Repr

/-- Reads data frames up to the closing frame, after which nothing may come: their content and the
time of the closing frame. -/
def readFrames? (stream : Bytes) : Option (Bytes × UInt32) :=
  let tag := stream.take 4
  let number := (stream.drop 4).take 4
  let rest := stream.drop 8
  if stream.length < 8 then none
  else if tag = Tag.done.bytes ∧ rest = [] then some ([], Bytes.toWord32 number)
  else if tag = Tag.data.bytes ∧ Bytes.leValue number ≤ rest.length then
    (readFrames? (rest.drop (Bytes.leValue number))).map fun (content, mtime) =>
      (rest.take (Bytes.leValue number) ++ content, mtime)
  else none
termination_by stream.length
decreasing_by
  simp only [List.length_drop]
  omega

def readUpload? (stream : Bytes) : Option Upload :=
  let length := Bytes.leValue ((stream.drop 4).take 4)
  let path := (stream.drop 8).take length
  let options := (stream.drop 8).drop length
  let flags := options.drop 8
  if stream.take 4 = Tag.send.bytes ∧ options.take 4 = Tag.send.bytes then do
    let path ← String.fromUTF8? ⟨path.toArray⟩
    let (content, mtime) ← readFrames? (flags.drop 4)
    return {
      path, content, mtime
      mode := Bytes.toWord32 ((options.drop 4).take 4)
      flags := Bytes.toWord32 (flags.take 4) }
  else none

theorem header_parts (tag : Tag) {number : Bytes} (hnumber : number.length = 4) (rest : Bytes) :
    (tag.bytes ++ number ++ rest).take 4 = tag.bytes ∧
      ((tag.bytes ++ number ++ rest).drop 4).take 4 = number ∧
      (tag.bytes ++ number ++ rest).drop 8 = rest ∧
      ¬ (tag.bytes ++ number ++ rest).length < 8 := by
  have htag : tag.bytes.length = 4 := by cases tag <;> rfl
  refine ⟨?_, ?_, ?_, ?_⟩
  · rw [List.append_assoc, List.take_left' htag]
  · rw [List.append_assoc, List.drop_left' htag, List.take_left' hnumber]
  · exact List.drop_left' (by rw [List.length_append, htag, hnumber])
  · rw [List.length_append, List.length_append, htag, hnumber]
    omega

theorem readFrames?_doneFrame (mtime : UInt32) :
    readFrames? (doneFrame mtime) = some ([], mtime) := by
  have hparts := header_parts .done (Bytes.length_ofWord32 mtime) []
  rw [List.append_nil] at hparts
  rw [readFrames?, doneFrame, hparts.1, hparts.2.1, hparts.2.2.1, if_neg hparts.2.2.2,
    if_pos ⟨rfl, rfl⟩, Bytes.toWord32_ofWord32]

theorem readFrames?_dataFrame {chunk : Bytes} (hsize : chunk.length ≤ maxData) (rest : Bytes) :
    readFrames? (dataFrame chunk ++ rest) =
      (readFrames? rest).map fun (content, mtime) => (chunk ++ content, mtime) := by
  have hparts := header_parts .data (Bytes.length_leBytes 4 chunk.length) (chunk ++ rest)
  have hlength : Bytes.leValue (Bytes.leBytes 4 chunk.length) = chunk.length :=
    leValue_length (Nat.lt_of_le_of_lt hsize (by decide))
  have hthere : chunk.length ≤ (chunk ++ rest).length := by simp
  have hnotDone : ¬ (Tag.data.bytes = Tag.done.bytes ∧ chunk ++ rest = []) := fun h =>
    absurd h.1 (by decide)
  rw [readFrames?, dataFrame, List.append_assoc, hparts.1, hparts.2.1, hparts.2.2.1,
    if_neg hparts.2.2.2, if_neg hnotDone, hlength, if_pos ⟨rfl, hthere⟩]
  simp

/-- Reading the frames of a push gives its content back. -/
theorem readFrames?_frames {chunks : List Bytes}
    (hsize : ∀ chunk ∈ chunks, chunk.length ≤ maxData) (mtime : UInt32) :
    readFrames? (chunks.flatMap dataFrame ++ doneFrame mtime) = some (chunks.flatten, mtime) := by
  induction chunks with
  | nil =>
      exact readFrames?_doneFrame mtime
  | cons chunk later ih =>
      rw [List.forall_mem_cons] at hsize
      rw [List.flatMap_cons, List.append_assoc, readFrames?_dataFrame hsize.1, ih hsize.2]
      rfl

/-- Reading a push gives back what it carries. -/
theorem readUpload?_pushBytes {path : String}
    (hpath : (Bytes.ofString path).length < Bytes.limit 4) (mode : UInt32) {chunks : List Bytes}
    (hsize : ∀ chunk ∈ chunks, chunk.length ≤ maxData) (mtime : UInt32) :
    readUpload? (pushBytes path mode chunks mtime) =
      some { path, mode, flags := 0, content := chunks.flatten, mtime } := by
  let frames := chunks.flatMap dataFrame ++ doneFrame mtime
  let options := Tag.send.bytes ++ Bytes.ofWord32 mode ++ (Bytes.ofWord32 0 ++ frames)
  have hwhole : pushBytes path mode chunks mtime =
      Tag.send.bytes ++ Bytes.leBytes 4 (Bytes.ofString path).length ++
        (Bytes.ofString path ++ options) := by
    rw [pushBytes_eq]
    simp only [pushRequest, pathRequest, options, frames, List.append_assoc]
  have hfirst := header_parts .send (Bytes.length_leBytes 4 (Bytes.ofString path).length)
    (Bytes.ofString path ++ options)
  have hsecond := header_parts .send (Bytes.length_ofWord32 mode) (Bytes.ofWord32 0 ++ frames)
  have hflags : (Bytes.ofWord32 0).length = 4 := Bytes.length_ofWord32 0
  rw [hwhole, readUpload?, hfirst.1, hfirst.2.1, hfirst.2.2.1, leValue_length hpath]
  dsimp only
  rw [List.take_left' rfl, List.drop_left' rfl, hsecond.1, hsecond.2.1, hsecond.2.2.1,
    if_pos ⟨rfl, rfl⟩, List.take_left' hflags, List.drop_left' hflags, fromUTF8?_ofString,
    readFrames?_frames hsize]
  simp

end EmulatorHost.Adb.Sync
