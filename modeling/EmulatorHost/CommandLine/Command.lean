import EmulatorHost.CommandLine.Grammar

/-!
# The commands

What the command line can be asked to do, the words that ask for it, and how they are read. The
address of the agent may be given before and after the subcommand; the one after it counts.
-/

namespace EmulatorHost.CommandLine

inductive DisplayFormat where
  | rgb888 | i420 | vp8
deriving DecidableEq, Repr, Inhabited

namespace DisplayFormat

def number : DisplayFormat → Nat
  | rgb888 => 0
  | i420 => 1
  | vp8 => 2

def all : List DisplayFormat := [rgb888, i420, vp8]

def word : DisplayFormat → String
  | rgb888 => "rgb888"
  | i420 => "i420"
  | vp8 => "vp8"

end DisplayFormat

inductive Command where
  -- Print the state of the emulator, once or at every change.
  | state (follow : Bool)
  | start (ram cores density width height : UInt32) (root : Bool)
  | stop (force : Bool)
  | list (path : String) (json : Bool)
  | stat (path : String) (noFollow json : Bool)
  | pull (remote localPath : String)
  | push (localPath remote mode : String)
  | shell (terminal : Bool) (term : Option String) (words : List String)
  | syslog
  | tap (x y : UInt32)
  | display (format : DisplayFormat) (maxFps keyframeInterval : UInt32)
deriving DecidableEq, Repr, Inhabited

structure Form where
  name : String
  grammar : Grammar
  meaning : Matches → Command

/-- The option for the agent's address, which every subcommand has. -/
def addrOption : String × ValueKind :=
  ("addr", .text)

def defaultMode : String := "644"

def forms : List Form :=
  [ { name := "state"
      grammar := { flags := ["follow"] }
      meaning := fun m => .state (m.has "follow") },
    { name := "start"
      grammar :=
        { flags := ["root"]
          options := ["ram", "cores", "density", "width", "height"].map (·, .word) }
      meaning := fun m =>
        .start (m.word "ram" 2048) (m.word "cores" 2) (m.word "density" 320) (m.word "width" 720)
          (m.word "height" 1280) (m.has "root") },
    { name := "stop"
      grammar := { flags := ["force"] }
      meaning := fun m => .stop (m.has "force") },
    { name := "ls"
      grammar := { flags := ["json"], operands := [.text] }
      meaning := fun m => .list (m.operandText 0) (m.has "json") },
    { name := "stat"
      grammar := { flags := ["no-follow", "json"], operands := [.text] }
      meaning := fun m => .stat (m.operandText 0) (m.has "no-follow") (m.has "json") },
    { name := "pull"
      grammar := { operands := [.text, .path] }
      meaning := fun m => .pull (m.operandText 0) (m.operandText 1) },
    { name := "push"
      grammar := { options := [("mode", .text)], operands := [.path, .text] }
      meaning := fun m =>
        .push (m.operandText 0) (m.operandText 1) ((m.text? "mode").getD defaultMode) },
    { name := "shell"
      grammar := { flags := ["pty"], options := [("term", .text)], takesTail := true }
      meaning := fun m => .shell (m.has "pty") (m.text? "term") m.tail },
    { name := "syslog"
      grammar := {}
      meaning := fun _ => .syslog },
    { name := "tap"
      grammar := { operands := [.word, .word] }
      meaning := fun m => .tap (m.operandWord 0) (m.operandWord 1) },
    { name := "display"
      grammar :=
        { options := [("format", .choice (DisplayFormat.all.map (·.word))), ("max-fps", .word),
            ("keyframe-interval", .word)] }
      meaning := fun m =>
        .display (DisplayFormat.all.getD (m.choice "format" 1) .i420) (m.word "max-fps" 5)
          (m.word "keyframe-interval" 0) } ]

def form? (name : String) : Option Form :=
  forms.find? (·.name == name)

def helpName : String := "help"

/-- What may stand before the subcommand. -/
def rootGrammar : Grammar :=
  { options := [addrOption], subcommands := forms.map (·.name) ++ [helpName] }

structure Invocation where
  addr : String
  command : Command
deriving DecidableEq, Repr, Inhabited

/-- Asks for help with at most one subcommand. -/
def helpOn : List String → UsageError
  | [] => .help
  | [name] => if rootGrammar.subcommands.contains name then .help else .invalidSubcommand
  | _ => .invalidSubcommand

/-- Reads the words after a subcommand's name: the address if it is given there, and the command. -/
def parseForm (name : String) (words : List String) :
    Except UsageError (Option String × Command) :=
  match form? name with
  | none => .error (helpOn words)
  | some form => do
    let grammar := { form.grammar with options := addrOption :: form.grammar.options }
    let found ← grammar.parse words
    return (found.text? "addr", form.meaning found)

/-- Reads a command line, without the name of the program. -/
def parse (defaultAddr : String) (words : List String) : Except UsageError Invocation := do
  match ← rootGrammar.scan {} words with
  | (progress, some (name, rest)) =>
    let (addr, command) ← parseForm name rest
    let progress ← progress.resolve
    return ⟨(addr.orElse fun _ => progress.found.text? "addr").getD defaultAddr, command⟩
  | (progress, none) =>
    let progress ← progress.resolve
    throw (if progress.found.isEmpty then .helpForNothing else .missingSubcommand)

end EmulatorHost.CommandLine
