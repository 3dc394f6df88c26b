/-!
# Wait statuses

How a child process ended, as the status word of the operating system says it: the low seven bits
tell an exit from a signal, a stop or a continuation.
-/

namespace EmulatorHost

structure WaitStatus where
  word : UInt32
deriving DecidableEq, Repr, Inhabited

namespace WaitStatus

inductive Meaning where
  | exited (code : Nat)
  -- A signal ended the child, perhaps with a memory dump.
  | signalled (signal : Nat) (dumped : Bool)
  -- A signal stopped the child, which is still there.
  | stopped (signal : Nat)
  -- The child went on after a stop.
  | continued
  | unrecognised
deriving DecidableEq, Repr

def meaning (status : WaitStatus) : Meaning :=
  let word := status.word.toNat
  let low := word % 128
  let second := word / 256 % 256
  if low = 0 then .exited second
  else if low < 127 then .signalled low (word / 128 % 2 = 1)
  -- 127 is the mark of a stop, and the whole word decides about a continuation.
  else if word % 256 = 127 then .stopped second
  else if word = 0xffff then .continued
  else .unrecognised

def ofExit (code : Nat) : WaitStatus :=
  ⟨UInt32.ofNat (code % 256 * 256)⟩

def ofSignal (signal : Nat) : WaitStatus :=
  ⟨UInt32.ofNat (signal % 128)⟩

/-- Only the word zero is a success. -/
def isSuccess (status : WaitStatus) : Bool :=
  status.word == 0

def signal? (status : WaitStatus) : Option Nat :=
  match status.meaning with
  | .signalled signal _ => some signal
  | _ => none

def code? (status : WaitStatus) : Option Nat :=
  match status.meaning with
  | .exited code => some code
  | _ => none

/-- The signal that no process can catch. -/
def killSignal : Nat := 9

/-- The names of the signals, from 1 upward. -/
def signalNames : List String :=
  ["SIGHUP", "SIGINT", "SIGQUIT", "SIGILL", "SIGTRAP", "SIGABRT", "SIGBUS", "SIGFPE", "SIGKILL",
    "SIGUSR1", "SIGSEGV", "SIGUSR2", "SIGPIPE", "SIGALRM", "SIGTERM", "SIGSTKFLT", "SIGCHLD",
    "SIGCONT", "SIGSTOP", "SIGTSTP", "SIGTTIN", "SIGTTOU", "SIGURG", "SIGXCPU", "SIGXFSZ",
    "SIGVTALRM", "SIGPROF", "SIGWINCH", "SIGIO", "SIGPWR", "SIGSYS"]

/-- A signal: its number, and its name if it has one. -/
def signalText (signal : Nat) : String :=
  toString signal ++
    match signal with
    | 0 => ""
    | index + 1 =>
      match signalNames[index]? with
      | some name => " (" ++ name ++ ")"
      | none => ""

def text (status : WaitStatus) : String :=
  match status.meaning with
  | .exited code => "exit status: " ++ toString code
  | .signalled signal dumped =>
    "signal: " ++ signalText signal ++ if dumped then " (core dumped)" else ""
  | .stopped signal => "stopped (not terminated) by signal: " ++ signalText signal
  | .continued => "continued (WIFCONTINUED)"
  | .unrecognised =>
    "unrecognised wait status: " ++ toString status.word.toInt32.toInt ++ " 0x" ++
      String.ofList (Nat.toDigits 16 status.word.toNat)

end WaitStatus

end EmulatorHost
