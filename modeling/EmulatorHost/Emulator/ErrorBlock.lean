import EmulatorHost.Text.Blank
import EmulatorHost.Text.Lines

/-!
# Error blocks in the emulator's output

The emulator announces a failure with a line `ERROR   |…` on its error stream; the lines after it
belong to the same block, up to the next warning or information line. `ErrorBlock` follows the
lines as they come, and the last block is what the emulator is said to have failed with.
-/

namespace EmulatorHost.Emulator

def errorMark : List Char := "ERROR   |".toList

def warningMark : List Char := "WARNING |".toList

def infoMark : List Char := "INFO    |".toList

inductive LineKind where
  -- It opens a block, with the text after the mark.
  | opens (rest : List Char)
  -- It ends the block.
  | ends
  -- It goes on in the block, if there is one.
  | plain
deriving DecidableEq, Repr

/-- The rest of a text that begins with a mark. -/
def afterMark? (mark : List Char) (line : List Char) : Option (List Char) :=
  if mark.isPrefixOf line then some (line.drop mark.length) else none

def LineKind.ofLine (line : List Char) : LineKind :=
  match afterMark? errorMark line with
  | some rest => .opens rest
  | none => if warningMark.isPrefixOf line || infoMark.isPrefixOf line then .ends else .plain

structure ErrorBlock where
  isOpen : Bool
  text : List Char
deriving DecidableEq, Repr, Inhabited

namespace ErrorBlock

def empty : ErrorBlock :=
  ⟨false, []⟩

def observe (block : ErrorBlock) (line : List Char) : ErrorBlock :=
  match LineKind.ofLine line with
  | .opens rest => ⟨true, rest⟩
  | .ends => { block with isOpen := false }
  | .plain => if block.isOpen then { block with text := block.text ++ '\n' :: line } else block

/-- The text of the block, without blanks at its ends. -/
def lastError (block : ErrorBlock) : String :=
  String.ofList (Text.trimChars block.text)

end ErrorBlock

inductive OutputLine where
  | out (line : String)
  | err (line : String)
deriving DecidableEq, Repr

/-- Only lines of the error stream bear on the block. -/
def ErrorBlock.observeOutput (block : ErrorBlock) : OutputLine → ErrorBlock
  | .out _ => block
  | .err line => block.observe line.toList

def lastErrorOf (lines : List OutputLine) : String :=
  (lines.foldl ErrorBlock.observeOutput ErrorBlock.empty).lastError

/-- The last error of two complete output streams. A stream counts up to its first line that is not
UTF-8; how the lines of the two interleave does not matter. -/
def mergeOutput (out err : Bytes) : String :=
  lastErrorOf ((Text.strictLines out).map .out ++ (Text.strictLines err).map .err)

end EmulatorHost.Emulator
