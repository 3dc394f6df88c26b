/-!
# Numerals

Reading and writing whole numbers. A numeral is a non-empty run of digits, with at most one plus
sign before it; nothing else may stand around it.
-/

namespace EmulatorHost.Numeral

/-- The value of a digit, in ASCII, below the radix. -/
def digit? (radix : Nat) (c : Char) : Option Nat :=
  let n := c.toNat
  let value :=
    if 48 ≤ n && n ≤ 57 then n - 48
    else if 97 ≤ n && n ≤ 122 then n - 87
    else if 65 ≤ n && n ≤ 90 then n - 55
    else radix
  if value < radix then some value else none

/-- The value of a run of digits that follows digits worth `value`. -/
def digitsFrom? (radix value : Nat) : List Char → Option Nat
  | [] => some value
  | c :: rest =>
    match digit? radix c with
    | some d => digitsFrom? radix (value * radix + d) rest
    | none => none

def digits? (radix : Nat) : List Char → Option Nat
  | [] => none
  | chars => digitsFrom? radix 0 chars

def unsigned? (radix : Nat) : List Char → Option Nat
  | '+' :: rest => digits? radix rest
  | chars => digits? radix chars

def upTo? (limit radix : Nat) (text : String) : Option Nat :=
  match unsigned? radix text.toList with
  | some value => if value ≤ limit then some value else none
  | none => none

def signed? : List Char → Option Int
  | '-' :: rest => (digits? 10 rest).map fun value => -(value : Int)
  | chars => (unsigned? 10 chars).map fun value => (value : Int)

def octal (n : Nat) : String :=
  String.ofList (Nat.toDigits 8 n)

end EmulatorHost.Numeral
