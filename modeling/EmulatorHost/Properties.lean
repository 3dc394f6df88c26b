import EmulatorHost.Text.Blank
import EmulatorHost.Text.Lines

/-!
# Property files

Lines of the form `key=value`. Blank lines, lines without an equals sign and comments, which begin
with `#` or `;`, say nothing. Blanks around key, value and line do not count, and the first line
for a key wins.
-/

namespace EmulatorHost.Properties

def splitAtEquals? : List Char → Option (List Char × List Char)
  | [] => none
  | c :: rest =>
    if c == '=' then some ([], rest)
    else (splitAtEquals? rest).map fun (key, value) => (c :: key, value)

def isComment (line : List Char) : Bool :=
  line.head? == some '#' || line.head? == some ';'

/-- The key and the value that a line gives, both trimmed. -/
def entry? (line : List Char) : Option (List Char × List Char) :=
  let line := Text.trimChars line
  if isComment line then none
  else (splitAtEquals? line).map fun (key, value) => (Text.trimChars key, Text.trimChars value)

/-- The entries of a text, in order. -/
def entries (text : List Char) : List (List Char × List Char) :=
  (Text.lines text).filterMap entry?

def find? (text key : String) : Option String :=
  ((entries text.toList).find? fun entry => entry.1 == key.toList).map fun entry =>
    String.ofList entry.2

end EmulatorHost.Properties
