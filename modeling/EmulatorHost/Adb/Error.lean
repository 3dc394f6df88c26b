import EmulatorHost.SystemError
import EmulatorHost.Text.Blank

/-!
# Failures of the device bridge

What can go wrong while talking to the daemon or running its binary, and the text of each cause.
-/

namespace EmulatorHost.Adb

inductive Error where
  | io (cause : SystemError)
  -- A frame could not be read or written.
  | framing (detail : String)
  -- The daemon answered with something that the protocol does not allow here.
  | protocol (detail : String)
  -- The daemon refused a service.
  | server (reply : String)
  -- The device refused a file operation.
  | device (reply : String)
  -- A chunk is larger than a data frame may be.
  | chunkTooLarge (length limit : Nat)
  | closed
  -- No device came online within the deadline.
  | deviceTimeout
  -- The binary does not exist.
  | notFound (path : String)
  -- The binary ended unsuccessfully.
  | exit (command : String) (status : Int) (stdout stderr : String)
deriving DecidableEq, Repr, Inhabited

namespace Error

/-- A captured output under its heading, blanks at both ends dropped; nothing for a blank output. -/
def captured (heading output : String) : String :=
  let text := Text.trim output
  if text.isEmpty then "" else "\n" ++ heading ++ ":\n" ++ text

def message : Error → String
  | io cause => "adb connection failed: " ++ cause.message
  | framing detail => "malformed adb frame: " ++ detail
  | protocol detail => "unexpected adb response: " ++ detail
  | server reply => "server error: " ++ reply
  | device reply => reply
  | chunkTooLarge length limit =>
    "chunk of " ++ toString length ++ " bytes exceeds the " ++ toString limit ++ " byte limit"
  | closed => "adb connection is closed"
  | deviceTimeout => "timed out waiting for device"
  | notFound path => "adb not found at " ++ path
  | exit command status stdout stderr =>
    "adb " ++ command ++ " failed with exit " ++ toString status ++
      captured "stdout" stdout ++ captured "stderr" stderr

/-- The failure came from the socket or its framing, so the connection is gone. -/
def isTransport : Error → Bool
  | io _ | framing _ | closed => true
  | _ => false

end Error

end EmulatorHost.Adb
