import EmulatorHost.Files

/-!
# Starting programs

A program is a file that may be executed. It is started with texts: its path, its arguments and the
variables that are set for it. The operating system takes texts that end at a NUL, so one with a NUL
inside is refused before the operating system is asked; and it has a greatest length for each text,
of which it complains only when it has found the program.
-/

namespace EmulatorHost

structure ProgramStart where
  program : String
  args : List String
  -- The names and values of the variables that are set for it.
  environment : List (String × String)
deriving DecidableEq, Repr, Inhabited

namespace ProgramStart

/-- The texts that the program is started with, besides its path. -/
def texts (start : ProgramStart) : List String :=
  start.args ++ start.environment.map fun (name, value) => name ++ "=" ++ value

def maxTextLength : Nat := 131071

def hasNul (start : ProgramStart) : Bool :=
  (start.program :: start.texts).any fun text => text.toList.contains '\x00'

def isTooLong (start : ProgramStart) : Bool :=
  start.texts.any fun text => maxTextLength < text.utf8ByteSize

def check (start : ProgramStart) (files : Files) : Except SystemError Unit :=
  if start.hasNul then .error (.text "nul byte found in provided data")
  else
    match files.checkProgram start.program with
    | .error cause => .error cause
    | .ok () => if start.isTooLong then .error .argumentsTooLong else .ok ()

end ProgramStart

end EmulatorHost
