import EmulatorHost.SystemError
import EmulatorHost.WaitStatus

/-!
# How an emulator's end is reported

A failed startup outweighs everything; a kill that was asked for, and an exit with status zero, are
clean; any other end is told by the last error block, or else by the status itself.
-/

namespace EmulatorHost.Emulator

/-- The error to report for an ended emulator, or nothing for a clean end: from what waiting
yielded, whether a forced stop was requested, the failure of the startup if any, and the last error
block. -/
def exitReport (outcome : Except SystemError WaitStatus) (forced : Bool)
    (startup : Option String) (lastError : String) : Option String :=
  match startup, outcome with
  | some failure, _ => some failure
  | none, .error cause => some ("failed to wait for emulator: " ++ cause.message)
  | none, .ok status =>
    if forced && status.signal? == some WaitStatus.killSignal then none
    else if status.isSuccess then none
    else if lastError.isEmpty then some ("emulator exited with " ++ status.text)
    else some lastError

end EmulatorHost.Emulator
