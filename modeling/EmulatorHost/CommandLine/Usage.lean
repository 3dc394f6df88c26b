/-!
# Usage errors

Why a command line does not say what to do. Asking for help or for the version counts as one, since
nothing is done then either.
-/

namespace EmulatorHost.CommandLine

inductive UsageError where
  | help
  -- Nothing was asked for, which is answered with help.
  | helpForNothing
  | version
  -- A word has no place in the command line.
  | unknownArgument
  -- An option has no value, or one that it does not know.
  | invalidValue
  -- A value is not of the kind that it must be.
  | valueValidation
  -- A flag that takes no value was given one.
  | tooManyValues
  -- An option or a flag was given twice.
  | conflict
  | missingArgument
  | missingSubcommand
  -- There is no such subcommand.
  | invalidSubcommand
deriving DecidableEq, Repr, Inhabited

namespace UsageError

def name : UsageError → String
  | help => "DisplayHelp"
  | helpForNothing => "DisplayHelpOnMissingArgumentOrSubcommand"
  | version => "DisplayVersion"
  | unknownArgument => "UnknownArgument"
  | invalidValue => "InvalidValue"
  | valueValidation => "ValueValidation"
  | tooManyValues => "TooManyValues"
  | conflict => "ArgumentConflict"
  | missingArgument => "MissingRequiredArgument"
  | missingSubcommand => "MissingSubcommand"
  | invalidSubcommand => "InvalidSubcommand"

end UsageError

end EmulatorHost.CommandLine
