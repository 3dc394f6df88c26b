import EmulatorHost.Proofs.SysLog
import EmulatorHost.Proofs.Text.Lines

/-!
# A console connection

What the log publishes of the bytes that one console connection delivers. The connection is served
line by line (`Serves`), and it is given up at the first line that is no text, so that nothing after
that line is published. The main statement is `publishes_every_line_iff`.
-/

namespace EmulatorHost.SysLog

open Text

/-- Serving a connection publishes one line after another, until the bytes have ended or a line
cannot be read. -/
inductive Serves : SysLog → Bytes → List String → SysLog → Prop where
  | ended {log : SysLog} {bytes : Bytes} : nextLine bytes = .ended → Serves log bytes [] log
  | unreadable {log : SysLog} {bytes : Bytes} :
      nextLine bytes = .unreadable → Serves log bytes [] log
  | line {log left : SysLog} {bytes later : Bytes} {text : String} {published : List String} :
      nextLine bytes = .line text later → Serves (log.publish text) later published left →
      Serves log bytes (text :: published) left

theorem serves_pump (log : SysLog) (bytes : Bytes) :
    Serves log bytes (strictLines bytes) (log.pump bytes) := by
  -- On the length: each line that is read takes at least one byte off the stream.
  induction hlength : bytes.length using Nat.strongRecOn generalizing log bytes with
  | ind length ih =>
      rw [pump, strictLines_eq]
      cases hnext : nextLine bytes with
      | line text later =>
          have hless : later.length < length := hlength ▸ length_lt_of_nextLine hnext
          exact .line hnext (ih later.length hless (log.publish text) later rfl)
      | ended =>
          exact .ended hnext
      | unreadable =>
          exact .unreadable hnext

/-- There is one way only to serve a connection. -/
theorem Serves.unique {log left : SysLog} {bytes : Bytes} {published : List String}
    (h : Serves log bytes published left) :
    published = strictLines bytes ∧ left = log.pump bytes := by
  induction h with
  | ended hnext | unreadable hnext =>
      rw [pump, strictLines_eq, hnext]
      exact ⟨rfl, rfl⟩
  | line hnext hlater ih =>
      rw [pump, strictLines_eq, hnext]
      exact ⟨congrArg _ ih.1, ih.2⟩

theorem map_decodeLossy_ofString (texts : List String) :
    (texts.map Bytes.ofString).map Utf8.decodeLossy = texts := by
  rw [List.map_map]
  exact List.map_id'' Utf8.decodeLossy_ofString texts

/-- What is published of a connection: the lines of the stream, which are its pieces between line
feeds less a carriage return at their ends, and then a rest that is not empty; up to the first line
that is no text, and none from there on. So every line is published, decoded with replacements as
elsewhere, exactly if every line is a text. -/
theorem publishes_every_line_iff (log : SysLog) (bytes : Bytes) :
    ∃ ended rest published unread,
      Pieces 10 bytes ended rest ∧
      rawLines bytes = ended.map (dropTrailing 13) ++ (if rest = [] then [] else [rest]) ∧
      (∀ texts left, Serves log bytes texts left ↔ texts = published ∧ left = log.pump bytes) ∧
      log.pump bytes = log.publishAll published ∧
      rawLines bytes = published.map Bytes.ofString ++ unread ∧
      (∀ line ∈ unread.head?, ¬ Utf8.IsText line) ∧
      (published = (rawLines bytes).map Utf8.decodeLossy ↔
        ∀ line ∈ rawLines bytes, Utf8.IsText line) := by
  rcases exists_pieces 10 bytes with ⟨ended, rest, hpieces⟩
  rcases exists_stopsAfter bytes with ⟨unread, hstops⟩
  refine ⟨ended, rest, strictLines bytes, unread, hpieces, linesAt_of_pieces hpieces, ?_, rfl,
    hstops.lines_eq, hstops.unreadable, ?_⟩
  · intro texts left
    constructor
    · exact Serves.unique
    · rintro ⟨rfl, rfl⟩
      exact serves_pump log bytes
  · -- The lines that are read are texts already, so it depends on the others alone.
    rw [← hstops.unread_eq_nil_iff]
    conv_lhs => rw [hstops.lines_eq, List.map_append, map_decodeLossy_ofString]
    simp

/-- A line of one byte that is no text comes second of three: only the first is published. -/
theorem unreadable_line_loses_later :
    let bytes : Bytes := [0x61, 10, 0xFF, 10, 0x62, 10]
    let log := empty.listen.2
    (rawLines bytes).map Utf8.decodeLossy = ["a", "\uFFFD", "b"] ∧
      Serves log bytes ["a"] (log.pump bytes) ∧ (log.pump bytes).queue 0 = ["a"] := by
  intro bytes log
  have hstrict : strictLines bytes = ["a"] := by decide +kernel
  refine ⟨by decide +kernel, ?_, ?_⟩
  · rw [← hstrict]
    exact serves_pump log bytes
  · rw [pump, hstrict]
    decide +kernel

end EmulatorHost.SysLog
