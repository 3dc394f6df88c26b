import EmulatorHost.Agent.Shell
import EmulatorHost.Text.Numeral

/-!
# Transfers and sessions, as the client sees them

What the client sends to push a file or to run a shell, and what it makes of the items that it gets
from a pull or a shell.
-/

namespace EmulatorHost.CommandLine

open Agent

/-- Cuts bytes into pieces of `size`, the last one possibly shorter; there are no pieces of nothing,
and pieces of size 0 are not cut. -/
def pieces (size : Nat) (bytes : Bytes) : List Bytes :=
  if bytes.isEmpty then []
  else if size == 0 || bytes.length ≤ size then [bytes]
  else bytes.take size :: pieces size (bytes.drop size)
termination_by bytes.length
decreasing_by
  simp_all only [Bool.or_eq_true, beq_iff_eq, decide_eq_true_eq, List.length_drop]
  omega

namespace Push

inductive ModeFault where
  | empty
  | invalidDigit
  | tooLarge
deriving DecidableEq, Repr, Inhabited

def ModeFault.word : ModeFault → String
  | empty => "Empty"
  | invalidDigit => "InvalidDigit"
  | tooLarge => "PosOverflow"

/-- Reads octal digits after those worth `value`; a number ends where it grows beyond 32 bits. -/
def modeFrom (value : Nat) : List Char → Except ModeFault UInt32
  | [] => .ok (UInt32.ofNat value)
  | c :: rest =>
    -- At each place, a character that is no digit is told before a number that is too large.
    match Numeral.digit? 8 c with
    | none => .error .invalidDigit
    | some digit =>
      if value * 8 + digit ≤ 0xffffffff then modeFrom (value * 8 + digit) rest else .error .tooLarge

/-- Reads a mode: octal digits, with at most one plus sign before them. -/
def readMode (text : String) : Except ModeFault UInt32 :=
  match text.toList with
  | [] => .error .empty
  | ['+'] => .error .invalidDigit
  | '+' :: rest => modeFrom 0 rest
  | chars => modeFrom 0 chars

def fileMode (mode : UInt32) : UInt32 :=
  0o100000 ||| (mode &&& 0o7777)

def chunkSize : Nat := 64 * 1024

def messages (remote : String) (mode : UInt32) (data : Bytes) (mtime : UInt32) :
    List PushMessage :=
  .start remote (fileMode mode) :: (pieces chunkSize data).map .data ++ [.finish mtime]

end Push

namespace Pull

/-- What is written of the items of a pull: all data up to the mark, or up to the end. -/
def content : List PullItem → Bytes
  | [] => []
  | item :: rest => if item.isLast then item.data else item.data ++ content rest

/-- The failure of a pull: that of the stream, unless the mark came before it. -/
def failure (stream : ServerStream PullItem) : Option Status :=
  if stream.items.any (·.isLast) then none else stream.failure

end Pull

namespace Session

def chunkSize : Nat := 4096

def window : ShellMessage :=
  .resize 24 80 0 0

def shellType (terminal : Bool) : Int :=
  if terminal then 1 else 0

/-- The messages of a shell: its start, its window if it has one, and all of the standard input. The
words of a command are joined by blanks. -/
def messages (terminal : Bool) (term : Option String) (words : List String) (input : Bytes) :
    List ShellMessage :=
  .start (shellType terminal) (if words.isEmpty then none else some (" ".intercalate words)) term ::
    (if terminal then [window] else []) ++
    (pieces chunkSize input).map (.stdin · false) ++ [.stdin [] true]

/-- What a session writes to an output: everything up to the exit code, or up to the end. -/
def output (channel : OutputChannel) : List ShellItem → Bytes
  | [] => []
  | .exit _ :: _ => []
  | .output other data :: rest =>
    if other = channel then data ++ output channel rest else output channel rest

def exitCode? (items : List ShellItem) : Option UInt32 :=
  items.findSome? fun
    | .exit code => some code
    | .output _ _ => none

/-- What a session comes to: the device's exit code, the failure of the stream, or 0 if the stream
ends with neither. -/
def result (stream : ServerStream ShellItem) : Except Status UInt32 :=
  match exitCode? stream.items, stream.failure with
  | some code, _ => .ok code
  | none, some status => .error status
  | none, none => .ok 0

/-- The status that a process ends with when it exits with a code: its low eight bits. -/
def processStatus (code : UInt32) : Nat :=
  code.toNat % 256

end Session

end EmulatorHost.CommandLine
