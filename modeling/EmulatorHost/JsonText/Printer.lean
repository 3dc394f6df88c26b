import EmulatorHost.JsonText.Value

/-!
# Writing JSON

Two layouts: without any blanks, and with one item per line, indented by two spaces a level.
-/

namespace EmulatorHost.JsonText

def hexDigit (n : Nat) : Char :=
  Nat.digitChar n

def escaped (c : Char) : List Char :=
  if c == '"' then ['\\', '"']
  else if c == '\\' then ['\\', '\\']
  else if c == '\x08' then ['\\', 'b']
  else if c == '\t' then ['\\', 't']
  else if c == '\n' then ['\\', 'n']
  else if c == '\x0c' then ['\\', 'f']
  else if c == '\r' then ['\\', 'r']
  else if c.toNat < 0x20 then
    ['\\', 'u', '0', '0', hexDigit (c.toNat / 16), hexDigit (c.toNat % 16)]
  else [c]

/-- A string between quotes; half a surrogate pair becomes U+FFFD. -/
def renderBody (body : Body) : String :=
  String.ofList ('"' :: body.flatMap (fun c => escaped (c.getD '\uFFFD')) ++ ['"'])

def Number.render (number : Number) : String :=
  (if number.negative then "-" else "") ++ toString number.whole ++ String.ofList number.rest

/-- A layout: what stands before an item and before the closing mark, at a depth, and what stands
between a name and its value. -/
structure Layout where
  lineBreak : Nat → String
  afterName : String

def Layout.compact : Layout :=
  ⟨fun _ => "", ":"⟩

def Layout.pretty : Layout :=
  ⟨fun depth => "\n" ++ String.ofList (List.replicate (2 * depth) ' '), ": "⟩

mutual

def Value.renderAt (layout : Layout) (depth : Nat) : Value → String
  | .null => "null"
  | .bool value => if value then "true" else "false"
  | .number value => value.render
  | .string body => renderBody body
  | .array [] => "[]"
  | .array (item :: items) =>
    "[" ++ layout.lineBreak (depth + 1) ++ item.renderAt layout (depth + 1) ++
      renderItems layout (depth + 1) items ++ layout.lineBreak depth ++ "]"
  | .object [] => "\x7b\x7d"
  | .object ((name, value) :: members) =>
    "\x7b" ++ layout.lineBreak (depth + 1) ++ renderBody name ++ layout.afterName ++
      value.renderAt layout (depth + 1) ++ renderMembers layout (depth + 1) members ++
      layout.lineBreak depth ++ "\x7d"

/-- Writes the items after the first. -/
def renderItems (layout : Layout) (depth : Nat) : List Value → String
  | [] => ""
  | item :: items =>
    "," ++ layout.lineBreak depth ++ item.renderAt layout depth ++ renderItems layout depth items

def renderMembers (layout : Layout) (depth : Nat) : List (Body × Value) → String
  | [] => ""
  | (name, value) :: members =>
    "," ++ layout.lineBreak depth ++ renderBody name ++ layout.afterName ++
      value.renderAt layout depth ++ renderMembers layout depth members

end

def Value.render (layout : Layout) (value : Value) : String :=
  value.renderAt layout 0

end EmulatorHost.JsonText
