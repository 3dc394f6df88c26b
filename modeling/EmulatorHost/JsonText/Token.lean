import EmulatorHost.JsonText.Value
import EmulatorHost.Text.Numeral

/-!
# JSON tokens

The marks, names, numbers and strings that a JSON text consists of. Between tokens there may be
spaces, tabs, line feeds and carriage returns.
-/

namespace EmulatorHost.JsonText

inductive Token where
  | beginArray | endArray | beginObject | endObject | comma | colon
  | null
  | bool (value : Bool)
  | number (value : Number)
  | string (body : Body)
deriving DecidableEq, Repr

namespace Token

def spanDigits (chars : List Char) : List Char × List Char :=
  chars.span Char.isDigit

def decimal (digits : List Char) : Nat :=
  digits.foldl (fun value digit => value * 10 + (digit.toNat - 48)) 0

def exponent? (chars : List Char) : Option (List Char × List Char) :=
  match chars with
  | mark :: rest =>
    if mark == 'e' || mark == 'E' then
      let (sign, rest) :=
        match rest with
        | c :: after => if c == '+' || c == '-' then ([c], after) else ([], rest)
        | [] => ([], [])
      let (digits, after) := spanDigits rest
      if digits.isEmpty then none else some (mark :: sign ++ digits, after)
    else some ([], chars)
  | [] => some ([], [])

def fraction? (chars : List Char) : Option (List Char × List Char) :=
  match chars with
  | '.' :: rest =>
    let (digits, after) := spanDigits rest
    if digits.isEmpty then none else some ('.' :: digits, after)
  | _ => some ([], chars)

/-- Reads a number, whose sign has been read. Only zero itself begins with a zero. -/
def number? (negative : Bool) (chars : List Char) : Option (Token × List Char) := do
  let (digits, rest) := spanDigits chars
  if digits.isEmpty || (digits.head? == some '0' && digits.length > 1) then none
  else
    let (fraction, rest) ← fraction? rest
    let (exponent, rest) ← exponent? rest
    return (.number ⟨negative, decimal digits, fraction ++ exponent⟩, rest)

def fourDigits? : List Char → Option (Nat × List Char)
  | a :: b :: c :: d :: rest => do
    let a ← Numeral.digit? 16 a
    let b ← Numeral.digit? 16 b
    let c ← Numeral.digit? 16 c
    let d ← Numeral.digit? 16 d
    return (((a * 16 + b) * 16 + c) * 16 + d, rest)
  | _ => none

def isHighSurrogate (unit : Nat) : Bool :=
  0xD800 ≤ unit && unit ≤ 0xDBFF

def isLowSurrogate (unit : Nat) : Bool :=
  0xDC00 ≤ unit && unit ≤ 0xDFFF

def ofPair (high low : Nat) : Char :=
  Char.ofNat (0x10000 + (high - 0xD800) * 0x400 + (low - 0xDC00))

def lowSurrogate? : List Char → Option (Nat × List Char)
  | '\\' :: 'u' :: rest =>
    match fourDigits? rest with
    | some (unit, after) => if isLowSurrogate unit then some (unit, after) else none
    | none => none
  | _ => none

def numbered? (chars : List Char) : Option (Option Char × List Char) :=
  match fourDigits? chars with
  | none => none
  | some (unit, rest) =>
    if isHighSurrogate unit then
      match lowSurrogate? rest with
      | some (low, after) => some (some (ofPair unit low), after)
      -- What follows is read on its own, so two first halves count as two.
      | none => some (none, rest)
    else if isLowSurrogate unit then some (none, rest)
    else some (some (Char.ofNat unit), rest)

/-- Reads what follows a backslash. -/
def escape? : List Char → Option (Option Char × List Char)
  | 'u' :: rest => numbered? rest
  | '"' :: rest => some (some '"', rest)
  | '\\' :: rest => some (some '\\', rest)
  | '/' :: rest => some (some '/', rest)
  | 'b' :: rest => some (some '\x08', rest)
  | 'f' :: rest => some (some '\x0c', rest)
  | 'n' :: rest => some (some '\n', rest)
  | 'r' :: rest => some (some '\r', rest)
  | 't' :: rest => some (some '\t', rest)
  | _ => none

/-- Reads a string up to its closing quote, on top of the characters read before, which are given
last first. Each round takes a character, so `fuel` above their number is never used up. -/
def stringFrom? : Nat → Body → List Char → Option (Token × List Char)
  | 0, _, _ => none
  | _ + 1, _, [] => none
  | fuel + 1, read, c :: rest =>
    if c == '"' then some (.string read.reverse, rest)
    else if c == '\\' then
      match escape? rest with
      | some (char, after) => stringFrom? fuel (char :: read) after
      | none => none
    else if c.toNat < 0x20 then none
    else stringFrom? fuel (some c :: read) rest

def next? (fuel : Nat) (c : Char) (rest : List Char) : Option (Token × List Char) :=
  match c, rest with
  | '[', _ => some (.beginArray, rest)
  | ']', _ => some (.endArray, rest)
  | '{', _ => some (.beginObject, rest)
  | '}', _ => some (.endObject, rest)
  | ',', _ => some (.comma, rest)
  | ':', _ => some (.colon, rest)
  | '"', _ => stringFrom? fuel [] rest
  | '-', _ => number? true rest
  | 'n', 'u' :: 'l' :: 'l' :: after => some (.null, after)
  | 't', 'r' :: 'u' :: 'e' :: after => some (.bool true, after)
  | 'f', 'a' :: 'l' :: 's' :: 'e' :: after => some (.bool false, after)
  | _, _ => if c.isDigit then number? false (c :: rest) else none

def isGap (c : Char) : Bool :=
  c == ' ' || c == '\t' || c == '\n' || c == '\r'

/-- Reads tokens to the end, on top of those read before, which are given last first. -/
def tokensFrom? : Nat → List Token → List Char → Option (List Token)
  | _, done, [] => some done.reverse
  | 0, _, _ :: _ => none
  | fuel + 1, done, c :: rest =>
    if isGap c then tokensFrom? fuel done rest
    else
      match next? (fuel + 1) c rest with
      | some (token, after) => tokensFrom? fuel (token :: done) after
      | none => none

def tokens? (text : String) : Option (List Token) :=
  tokensFrom? text.length [] text.toList

end Token

end EmulatorHost.JsonText
