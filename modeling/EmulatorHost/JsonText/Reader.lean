import EmulatorHost.JsonText.Token

/-!
# Reading JSON

The tokens of a text are taken one by one. The containers that are part way through are kept in a
list, innermost first, so that reading is a single pass over the tokens whatever their nesting.
-/

namespace EmulatorHost.JsonText

inductive Frame where
  -- A container part way through, its parts last first.
  | array (items : List Value)
  | object (members : List (Body × Value))
  -- An object whose latest member lacks its value.
  | member (members : List (Body × Value)) (name : Body)
deriving Repr

inductive Expectation where
  | value
  -- A value, or the end of the array that has just begun.
  | firstItem
  -- A name, or the end of the object that has just begun.
  | firstName
  | name
  -- The colon between name and value.
  | colon
  -- A comma, or the end of the innermost container.
  | separator
  -- Nothing: the value is complete.
  | nothing (value : Value)
deriving Repr

structure Reader where
  frames : List Frame
  expects : Expectation
deriving Repr

namespace Reader

def accept (frames : List Frame) (value : Value) : Option Reader :=
  match frames with
  | [] => some ⟨[], .nothing value⟩
  | .array items :: outer => some ⟨.array (value :: items) :: outer, .separator⟩
  | .member members name :: outer =>
    some ⟨.object ((name, value) :: members) :: outer, .separator⟩
  | .object _ :: _ => none

/-- Ends the innermost container, which must be an array. -/
def endArray : List Frame → Option Reader
  | .array items :: outer => accept outer (.array items.reverse)
  | _ => none

def endObject : List Frame → Option Reader
  | .object members :: outer => accept outer (.object members.reverse)
  | _ => none

def takeValue (frames : List Frame) : Token → Option Reader
  | .null => accept frames .null
  | .bool value => accept frames (.bool value)
  | .number value => accept frames (.number value)
  | .string body => accept frames (.string body)
  | .beginArray => some ⟨.array [] :: frames, .firstItem⟩
  | .beginObject => some ⟨.object [] :: frames, .firstName⟩
  | _ => none

def takeName (frames : List Frame) : Token → Option Reader
  | .string body =>
    match frames with
    | .object members :: outer => some ⟨.member members body :: outer, .colon⟩
    | _ => none
  | _ => none

def take (reader : Reader) (token : Token) : Option Reader :=
  match reader.expects, token with
  | .firstItem, .endArray => endArray reader.frames
  | .firstItem, _ => takeValue reader.frames token
  | .value, _ => takeValue reader.frames token
  | .firstName, .endObject => endObject reader.frames
  | .firstName, _ => takeName reader.frames token
  | .name, _ => takeName reader.frames token
  | .colon, .colon => some ⟨reader.frames, .value⟩
  | .separator, .endArray => endArray reader.frames
  | .separator, .endObject => endObject reader.frames
  | .separator, .comma =>
    match reader.frames with
    | .array _ :: _ => some ⟨reader.frames, .value⟩
    | .object _ :: _ => some ⟨reader.frames, .name⟩
    | _ => none
  | _, _ => none

end Reader

/-- Reads a JSON text: one value, and nothing after it. -/
def parse? (text : String) : Option Value := do
  let tokens ← Token.tokens? text
  let reader ← tokens.foldlM Reader.take ⟨[], .value⟩
  match reader.expects with
  | .nothing value => some value
  | _ => none

end EmulatorHost.JsonText
