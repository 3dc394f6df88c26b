import EmulatorHost.Display.Error
import EmulatorHost.Emulator.Error

/-!
# The status that a failure becomes

How the failures of the device bridge, the emulator and the display are told to remote callers.
-/

namespace EmulatorHost

/-- Failures of the connection are unavailability; the device's own refusals, and those of the
binary, are internal. -/
def Adb.Error.status (error : Adb.Error) : Status :=
  let code : Code :=
    match error with
    | .device _ => .internal
    | .chunkTooLarge _ _ => .invalidArgument
    | .deviceTimeout => .deadlineExceeded
    | other => if other.isTransport then .unavailable else .internal
  ⟨code, error.message⟩

/-- The console's own statuses are passed on, and so are those of the device bridge. -/
def Emulator.Error.status : Emulator.Error → Status
  | .notReady => ⟨.failedPrecondition, Emulator.Error.notReady.message⟩
  | .console status => status
  | .adb cause => cause.status
  | other => ⟨.internal, other.message⟩

/-- Only a codec that is not there is unimplemented. -/
def Display.Error.status (error : Display.Error) : Status :=
  match error with
  | .codec (.unsupported _) => ⟨.unimplemented, error.message⟩
  | _ => ⟨.internal, error.message⟩

end EmulatorHost
