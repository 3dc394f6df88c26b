import EmulatorHost.CommandLine.Usage
import EmulatorHost.Text.Numeral

/-!
# Grammars of command lines

A grammar tells which flags, options and positional values a list of words may hold. Words are read
one after the other. A value is judged only when the next flag, option or positional value comes, or
at the end, so a word that has no place at all is reported before a value that is wrong.
-/

namespace EmulatorHost.CommandLine

inductive ValueKind where
  | text
  -- A path, which is not empty.
  | path
  -- A number of 32 bits.
  | word
  -- One of a few words.
  | choice (words : List String)
deriving DecidableEq, Repr, Inhabited

/-- A value of the command line that has been judged. A choice is given by its position. -/
inductive Argument where
  | text (text : String)
  | word (number : UInt32)
  | choice (index : Nat)
deriving DecidableEq, Repr, Inhabited

/-- The number that a decimal numeral of 32 bits stands for. -/
def wordOf? (text : String) : Option UInt32 :=
  match Numeral.signed? text.toList with
  | some value => if 0 ≤ value ∧ value ≤ 0xffffffff then some (UInt32.ofNat value.toNat) else none
  | none => none

def ValueKind.read (kind : ValueKind) (text : String) : Except UsageError Argument :=
  match kind with
  | .text => .ok (.text text)
  | .path => if text.isEmpty then .error .invalidValue else .ok (.text text)
  | .word =>
    match wordOf? text with
    | some number => .ok (.word number)
    | none => .error .valueValidation
  | .choice words =>
    match words.findIdx? (· == text) with
    | some index => .ok (.choice index)
    | none => .error .invalidValue

structure Grammar where
  -- The flags, which take no value.
  flags : List String := []
  -- The options, which take one value each.
  options : List (String × ValueKind) := []
  -- The positional values, each of which must be there.
  operands : List ValueKind := []
  -- Whether any words may follow, from the first positional one on.
  takesTail : Bool := false
  -- The subcommands, one of which must be there if there are any.
  subcommands : List String := []
deriving Repr, Inhabited

structure Matches where
  flags : List String := []
  options : List (String × Argument) := []
  operands : List Argument := []
  tail : List String := []
deriving DecidableEq, Repr, Inhabited

namespace Matches

def has (found : Matches) (flag : String) : Bool :=
  found.flags.contains flag

def isEmpty (found : Matches) : Bool :=
  found.flags.isEmpty && found.options.isEmpty && found.operands.isEmpty && found.tail.isEmpty

def text? (found : Matches) (option : String) : Option String :=
  match found.options.lookup option with
  | some (.text text) => some text
  | _ => none

def word (found : Matches) (option : String) (default : UInt32) : UInt32 :=
  match found.options.lookup option with
  | some (.word number) => number
  | _ => default

def choice (found : Matches) (option : String) (default : Nat) : Nat :=
  match found.options.lookup option with
  | some (.choice index) => index
  | _ => default

def operandText (found : Matches) (index : Nat) : String :=
  match found.operands[index]? with
  | some (.text text) => text
  | _ => ""

def operandWord (found : Matches) (index : Nat) : UInt32 :=
  match found.operands[index]? with
  | some (.word number) => number
  | _ => 0

end Matches

inductive Pending where
  | nothing
  -- An option, and its value if it has come.
  | option (name : String) (kind : ValueKind) (value : Option String)
  | operand (kind : ValueKind) (value : String)
deriving DecidableEq, Repr, Inhabited

/-- How far the reading has come. After the mark `--`, and in a tail, every word is positional. -/
structure Progress where
  found : Matches := {}
  pending : Pending := .nothing
  -- How many positional values have come.
  count : Nat := 0
  isEscaped : Bool := false
deriving DecidableEq, Repr, Inhabited

namespace Progress

/-- Adds an option with its value, unless it is there already. -/
def addOption (progress : Progress) (name : String) (kind : ValueKind) (text : String) :
    Except UsageError Progress :=
  if (progress.found.options.lookup name).isSome then .error .conflict
  else
    match kind.read text with
    | .error error => .error error
    | .ok value =>
      .ok { progress with
        found := { progress.found with options := progress.found.options ++ [(name, value)] } }

def addFlag (progress : Progress) (name : String) : Except UsageError Progress :=
  if progress.found.has name then .error .conflict
  else
    .ok { progress with
      found := { progress.found with flags := progress.found.flags ++ [name] } }

def resolve (progress : Progress) : Except UsageError Progress :=
  let rest := { progress with pending := .nothing }
  match progress.pending with
  | .nothing => .ok progress
  | .option _ _ none => .error .invalidValue
  | .option name kind (some text) => rest.addOption name kind text
  | .operand kind text =>
    match kind.read text with
    | .error error => .error error
    | .ok value =>
      .ok { rest with
        found := { progress.found with operands := progress.found.operands ++ [value] } }

end Progress

inductive Word where
  | escape
  -- A long flag or option, and the value after its equals sign.
  | long (name : String) (value : Option String)
  -- A cluster of one-letter flags, which is not empty.
  | short (first : Char)
  | plain
deriving DecidableEq, Repr, Inhabited

/-- The name of a long word up to its first equals sign, and what follows the sign. -/
def splitAtEquals (chars : List Char) : String × Option String :=
  let name := chars.takeWhile (· != '=')
  match chars.drop name.length with
  | [] => (String.ofList name, none)
  | _ :: value => (String.ofList name, some (String.ofList value))

/-- The form of a word. A single dash is plain. -/
def Word.ofText (text : String) : Word :=
  match text.toList with
  | ['-', '-'] => .escape
  | '-' :: '-' :: rest =>
    let (name, value) := splitAtEquals rest
    .long name value
  | '-' :: first :: _ => .short first
  | _ => .plain

namespace Grammar

/-- Only a grammar with subcommands has a version. -/
def hasVersion (grammar : Grammar) : Bool :=
  !grammar.subcommands.isEmpty

/-- Judges what is pending, and then fails. -/
def afterPending {α : Type} (progress : Progress) (error : UsageError) : Except UsageError α :=
  match progress.resolve with
  | .error earlier => .error earlier
  | .ok _ => .error error

def readLong (grammar : Grammar) (progress : Progress) (name : String) (value : Option String) :
    Except UsageError Progress :=
  match grammar.options.lookup name, value with
  | some kind, some text => do (← progress.resolve).addOption name kind text
  | some kind, none => do
    let progress ← progress.resolve
    return { progress with pending := .option name kind none }
  | none, _ =>
    let isHelp := name == "help"
    let isVersion := grammar.hasVersion && name == "version"
    if isHelp || isVersion || grammar.flags.contains name then
      if value.isSome then .error .tooManyValues
      else if isHelp then afterPending progress .help
      else if isVersion then afterPending progress .version
      else do (← progress.resolve).addFlag name
    else .error .unknownArgument

/-- Reads a cluster of one-letter flags; none of those there are is followed by another. -/
def readShort (grammar : Grammar) (progress : Progress) (first : Char) :
    Except UsageError Progress :=
  if first == 'h' then afterPending progress .help
  else if grammar.hasVersion && first == 'V' then afterPending progress .version
  else .error .unknownArgument

def misplaced (grammar : Grammar) (isEscaped : Bool) (text : String) : UsageError :=
  if grammar.subcommands.isEmpty || isEscaped && grammar.subcommands.contains text then
    .unknownArgument
  else .invalidSubcommand

def readOperand (grammar : Grammar) (progress : Progress) (text : String) :
    Except UsageError Progress :=
  match grammar.operands[progress.count]? with
  | some kind => do
    let progress ← progress.resolve
    return { progress with pending := .operand kind text, count := progress.count + 1 }
  | none =>
    if grammar.takesTail then do
      let progress ← progress.resolve
      return { progress with
        found := { progress.found with tail := progress.found.tail ++ [text] }
        isEscaped := true }
    else .error (grammar.misplaced progress.isEscaped text)

def readWord (grammar : Grammar) (progress : Progress) (text : String) :
    Except UsageError Progress :=
  if progress.isEscaped then grammar.readOperand progress text
  else
    match Word.ofText text, progress.pending with
    | .escape, _ => .ok { progress with isEscaped := true }
    | .long name value, _ => grammar.readLong progress name value
    | .short first, _ => grammar.readShort progress first
    -- An option takes any plain word as its value, also the name of a subcommand.
    | .plain, .option name kind none =>
      .ok { progress with pending := .option name kind (some text) }
    | .plain, _ => grammar.readOperand progress text

/-- An option waits for its value, which the next plain word is. -/
def awaitsValue : Pending → Bool
  | .option _ _ none => true
  | _ => false

def isSubcommand (grammar : Grammar) (progress : Progress) (text : String) : Bool :=
  !progress.isEscaped && !awaitsValue progress.pending && grammar.subcommands.contains text

/-- Reads words up to the subcommand, if there is one; with it come the words after it. -/
def scan (grammar : Grammar) (progress : Progress) :
    List String → Except UsageError (Progress × Option (String × List String))
  | [] => .ok (progress, none)
  | text :: rest =>
    if grammar.isSubcommand progress text then .ok (progress, some (text, rest))
    else
      match grammar.readWord progress text with
      | .error error => .error error
      | .ok progress => grammar.scan progress rest

def parse (grammar : Grammar) (words : List String) : Except UsageError Matches := do
  let (progress, _) ← grammar.scan {} words
  let progress ← progress.resolve
  if progress.found.operands.length < grammar.operands.length then throw .missingArgument
  return progress.found

end Grammar

end EmulatorHost.CommandLine
