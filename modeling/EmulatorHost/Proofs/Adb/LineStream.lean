import EmulatorHost.Proofs.Adb.Reading
import EmulatorHost.Proofs.Text.Lines

/-!
# Lines of a connection

A line is taken byte by byte up to the next line feed, over as many segments as it reaches, and so
it is the same however the bytes were cut. Read again and again, a connection gives the pieces of
the stream between its line feeds one by one. What no line feed ends comes last, and closes the
connection.
-/

namespace EmulatorHost.Adb.Exchange

variable {connection : Connection} {line later : Bytes} {segments : List Bytes}

/-! ## Taking bytes up to a line feed -/

theorem takeToFeed_of_free (hfree : 10 ∉ line) (taken : Bytes) :
    takeToFeed taken line = (line.reverse ++ taken, none) := by
  induction line generalizing taken with
  | nil =>
      rfl
  | cons byte line ih =>
      rw [List.mem_cons, not_or] at hfree
      simp [takeToFeed, Ne.symm hfree.1, ih hfree.2]

theorem takeToFeed_append (hfree : 10 ∉ line) (taken later : Bytes) :
    takeToFeed taken (line ++ 10 :: later) = (line.reverse ++ taken, some later) := by
  induction line generalizing taken with
  | nil =>
      rfl
  | cons byte line ih =>
      rw [List.mem_cons, not_or] at hfree
      simp [takeToFeed, Ne.symm hfree.1, ih hfree.2]

/-- A segment without a line feed is taken whole, and the line goes on in the next one. -/
theorem takeLine_cons_of_free {segment : Bytes} (hfree : 10 ∉ segment) (ending : Ending)
    (taken : Bytes) (rest : List Bytes) :
    takeLine ending taken (segment :: rest) = takeLine ending (segment.reverse ++ taken) rest := by
  rw [takeLine, takeToFeed_of_free hfree]

/-- A line that a line feed ends is taken off the segments, and the bytes after it are left. -/
theorem takeLine_of_append (ending : Ending) (taken : Bytes)
    (hbytes : segments.flatten = line ++ 10 :: later) (hfree : 10 ∉ line) :
    ∃ left, takeLine ending taken segments = (taken.reverse ++ line, .feed, left) ∧
      left.flatten = later := by
  -- The line may begin in an earlier segment, so what was taken before goes through the induction.
  induction segments generalizing taken line with
  | nil =>
      simp at hbytes
  | cons segment rest ih =>
      rw [List.flatten_cons] at hbytes
      rcases List.append_eq_append_iff.mp hbytes with ⟨piece, rfl, hrest⟩ | ⟨after, rfl, hlater⟩
      · -- The line reaches beyond this segment.
        rw [List.mem_append, not_or] at hfree
        rcases ih (segment.reverse ++ taken) hrest hfree.2 with ⟨left, htake, hleft⟩
        refine ⟨left, ?_, hleft⟩
        rw [takeLine_cons_of_free hfree.1, htake]
        simp
      · rcases after with _ | ⟨feed, after⟩
        · -- The line feed is the first byte after this segment.
          have hrest : rest.flatten = [] ++ 10 :: later := hlater.symm
          rcases ih (line.reverse ++ taken) hrest List.not_mem_nil with ⟨left, htake, hleft⟩
          refine ⟨left, ?_, hleft⟩
          rw [List.append_nil, takeLine_cons_of_free hfree, htake]
          simp
        · -- The line feed is in this segment.
          cases hlater
          refine ⟨after :: rest, ?_, rfl⟩
          rw [takeLine, takeToFeed_append hfree]
          simp

/-- Without a line feed, all bytes are taken. -/
theorem takeLine_of_free (taken : Bytes) (hfree : 10 ∉ segments.flatten) :
    takeLine .finished taken segments = (taken.reverse ++ segments.flatten, .finished, []) := by
  induction segments generalizing taken with
  | nil =>
      simp [takeLine]
  | cons segment rest ih =>
      rw [List.flatten_cons, List.mem_append, not_or] at hfree
      rw [takeLine_cons_of_free hfree.1, ih _ hfree.2]
      simp

/-! ## Reading a line -/

theorem lineText_eq (line : Bytes) : lineText line = Utf8.decodeLossy (Text.dropTrailing 13 line) := by
  rw [lineText, Text.dropTrailing]
  rcases line.getLast? with _ | last
  · rfl
  · simp

/-- A line is read up to its line feed, and the connection stays open for the bytes after it. -/
theorem reads_readLine (hfree : 10 ∉ line) :
    Reads readLine (line ++ [10]) (some (Utf8.decodeLossy (Text.dropTrailing 13 line))) := by
  intro connection rest hopen hbytes
  rw [List.append_assoc] at hbytes
  rcases takeLine_of_append connection.source.ending [] hbytes hfree with ⟨segments, htake, hrest⟩
  refine ⟨{ connection with source := { connection.source with segments } },
    ⟨hopen, hrest, rfl, rfl⟩, ?_⟩
  rw [on_readLine, if_pos hopen, htake, ← lineText_eq]
  rfl

/-- What no line feed ends is read as the stream ends, and closes the connection. -/
theorem on_readLine_of_free (hopen : connection.isOpen = true)
    (hending : connection.source.ending = .finished) (hfree : 10 ∉ connection.source.bytes) :
    readLine.on connection =
      (.ok (if connection.source.bytes = [] then none
          else some (Utf8.decodeLossy (Text.dropTrailing 13 connection.source.bytes))),
        ⟨⟨[], .finished⟩, connection.sink, false⟩) := by
  rw [on_readLine, if_pos hopen, hending, takeLine_of_free [] hfree, ← lineText_eq]
  simp [Source.bytes, hending, List.isEmpty_iff]

/-- Lines are read one by one from a stream that ends, however it comes in segments. Each piece that
a line feed ends is read at its turn, without the line feed and one carriage return before it, and
nothing after it is taken. The call after these reads what is left, if anything is, and closes the
connection. So what is read, with the line ends, is the whole stream. -/
theorem reads_every_line (connection : Connection) (hopen : connection.isOpen = true)
    (hending : connection.source.ending = .finished) :
    ∃ ended rest,
      Text.Pieces 10 connection.source.bytes ended rest ∧
      (∀ turn (hturn : turn < ended.length),
        readLine.atTurn connection turn =
          .ok (some (Utf8.decodeLossy (Text.dropTrailing 13 ended[turn])))) ∧
      (∀ turn, turn ≤ ended.length →
        connection.Onward ((ended.drop turn).flatMap (· ++ [10]) ++ rest)
          (readLine.afterTurns connection turn)) ∧
      readLine.on (readLine.afterTurns connection ended.length) =
        (.ok (if rest = [] then none else some (Utf8.decodeLossy (Text.dropTrailing 13 rest))),
          ⟨⟨[], .finished⟩, connection.sink, false⟩) := by
  rcases Text.exists_pieces 10 connection.source.bytes with ⟨ended, rest, hpieces⟩
  have hlines : ∀ piece ∈ ended, Reads readLine (piece ++ [10])
      (some (Utf8.decodeLossy (Text.dropTrailing 13 piece))) := by
    intro piece hpiece
    exact reads_readLine (hpieces.ended_free piece hpiece)
  rcases Reads.turns hlines hopen hpieces.items_eq with ⟨hvalues, hplaces⟩
  refine ⟨ended, rest, hpieces, hvalues, hplaces, ?_⟩
  have hlast := hplaces ended.length (Nat.le_refl _)
  rw [List.drop_length, List.flatMap_nil, List.nil_append] at hlast
  have hfree : 10 ∉ (readLine.afterTurns connection ended.length).source.bytes := by
    rw [hlast.bytes]
    exact hpieces.rest_free
  rw [on_readLine_of_free hlast.isOpen (hlast.ending.trans hending) hfree, hlast.bytes, hlast.sink]

/-- Three lines, the first of which comes in two segments; of the last one only a carriage return
has come. -/
theorem reads_every_line_threeLines :
    let reader := Connection.ofPeer
      ⟨[Bytes.ofString "a", Bytes.ofString "\r\n\n", [], Bytes.ofString "\r"], .finished⟩ .unlimited
    (reader.isOpen = true ∧ reader.source.ending = .finished) ∧
      readLine.atTurn reader 0 = .ok (some "a") ∧ readLine.atTurn reader 1 = .ok (some "") ∧
      (readLine.afterTurns reader 2).isOpen = true ∧
      (readLine.afterTurns reader 2).source.bytes = Bytes.ofString "\r" ∧
      readLine.on (readLine.afterTurns reader 2) =
        (.ok (some ""), ⟨⟨[], .finished⟩, .unlimited, false⟩) := by
  intro reader
  rcases reads_every_line reader rfl rfl with ⟨ended, rest, hpieces, hvalues, hplaces, hlast⟩
  have hsplit : Text.splitAtEach 10 reader.source.bytes = ([[0x61, 13], []], [13]) := by decide
  rw [Text.splitAtEach_eq_iff.mpr hpieces] at hsplit
  cases hsplit
  have hplace := hplaces 2 (Nat.le_refl 2)
  have hletter : Utf8.decodeLossy [0x61] = "a" := by decide +kernel
  have hnothing : Utf8.decodeLossy [] = "" := by decide +kernel
  refine ⟨⟨rfl, rfl⟩, ?_, ?_, hplace.isOpen, hplace.bytes, ?_⟩
  · rw [← hletter]
    exact hvalues 0 (by decide)
  · rw [← hnothing]
    exact hvalues 1 (by decide)
  · rw [← hnothing]
    exact hlast

end EmulatorHost.Adb.Exchange
