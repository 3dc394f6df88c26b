/-!
# JSON values

A JSON text as a tree. Numbers keep the way they are written, because a natural number only counts
where it is written without sign, fraction and exponent. Strings keep the halves of surrogate pairs
that stand alone; they are no characters, and a string that has one is no text.
-/

namespace EmulatorHost.JsonText

structure Number where
  negative : Bool
  whole : Nat
  rest : List Char
deriving DecidableEq, Repr, Inhabited

def Number.natural? (number : Number) : Option Nat :=
  if number.negative || !number.rest.isEmpty then none else some number.whole

/-- The characters of a string, with `none` for each half of a surrogate pair that stands alone. -/
abbrev Body := List (Option Char)

def Body.text? (body : Body) : Option String :=
  if body.all Option.isSome then some (String.ofList (body.filterMap id)) else none

def Body.ofText (text : String) : Body :=
  text.toList.map some

inductive Value where
  | null
  | bool (value : Bool)
  | number (value : Number)
  | string (body : Body)
  | array (items : List Value)
  | object (members : List (Body × Value))
deriving Repr, Inhabited

namespace Value

def ofText (text : String) : Value :=
  string (.ofText text)

def ofNat (value : Nat) : Value :=
  number ⟨false, value, []⟩

def ofInt (value : Int) : Value :=
  number ⟨value < 0, value.natAbs, []⟩

def ofMembers (members : List (String × Value)) : Value :=
  object (members.map fun (name, value) => (.ofText name, value))

def text? : Value → Option String
  | string body => body.text?
  | _ => none

def natural? : Value → Option Nat
  | number value => value.natural?
  | _ => none

def bool? : Value → Option Bool
  | bool value => some value
  | _ => none

end Value

end EmulatorHost.JsonText
