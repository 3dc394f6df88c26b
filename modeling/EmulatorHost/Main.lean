import EmulatorHost.Adb.Daemon
import EmulatorHost.CommandLine.Program
import EmulatorHost.Config

/-!
# The command

Runs a command line. No link to an agent is part of this program, so a command that is well formed
ends with the failure to reach one.
-/

open EmulatorHost

/-- What a run starts with: nothing runs, and there are no local files. -/
def blankDesk : CommandLine.Desk where
  host := .begin [] (.ofReach (.failing .networkUnreachable))
  files := .emptyIn []
  mtime := 0
  stdin := []
  stdout := []
  stderr := []

/-- Runs the command line, prints what it printed, and exits as it exits. -/
def main (args : List String) : IO UInt32 := do
  let addr ← IO.getEnv "DROIDAGENT_ADDR"
  let env : Environment := fun key => if key == "DROIDAGENT_ADDR" then addr else none
  let outcome := CommandLine.run (Config.clientAddr env) args false blankDesk
  (← IO.getStdout).putStr (Utf8.decodeLossy outcome.desk.stdout)
  (← IO.getStderr).putStr (Utf8.decodeLossy outcome.desk.stderr)
  return UInt32.ofNat (outcome.exitStatus.getD 0)
