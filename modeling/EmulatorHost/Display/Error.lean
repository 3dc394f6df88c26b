/-!
# Failures of display encoding
-/

namespace EmulatorHost.Display

inductive CodecFault where
  -- The codec is not part of the program.
  | unsupported (codec : String)
  -- The codec itself failed.
  | failed (detail : String)
deriving DecidableEq, Repr, Inhabited

def CodecFault.message : CodecFault → String
  | unsupported codec => codec ++ " encoding is not available in this build"
  | failed detail => "encoder failed: " ++ detail

inductive Error where
  -- The frame does not carry as many bytes as its size demands.
  | badFrame (width height : UInt32) (length : Nat)
  | codec (fault : CodecFault)
deriving DecidableEq, Repr, Inhabited

def Error.message : Error → String
  | badFrame width height length =>
    "frame of " ++ toString width.toNat ++ "x" ++ toString height.toNat ++ " carries " ++
      toString length ++ " bytes"
  | codec fault => fault.message

end EmulatorHost.Display
