import EmulatorHost.Text.Numeral

/-!
# Socket addresses

The addresses that the host can listen on: an IPv4 address, or an IPv6 address in brackets, and a
port. Names of hosts are no such addresses.
-/

namespace EmulatorHost

inductive SocketAddress where
  | v4 (octets : List Nat) (port : Nat)
  | v6 (groups : List Nat) (scope port : Nat)
deriving DecidableEq, Repr

namespace SocketAddress

abbrev Reader (α : Type) := List Char → Option (α × List Char)

/-- Reads digits of a radix whose value is at most `limit`. -/
def number? (radix limit : Nat) : Reader Nat := fun chars =>
  let (digits, rest) := chars.span fun c => (Numeral.digit? radix c).isSome
  match Numeral.digits? radix digits with
  | some value => if value ≤ limit then some (value, rest) else none
  | none => none

def mark? (mark : Char) : Reader Unit
  | c :: rest => if c == mark then some ((), rest) else none
  | [] => none

/-- Reads one part of an IPv4 address, which has no leading zeros. -/
def octet? : Reader Nat := fun chars =>
  let digits := chars.takeWhile Char.isDigit
  if digits.length > 3 || (digits.head? == some '0' && digits.length > 1) then none
  else number? 10 255 chars

def v4Octets? : Reader (List Nat) := fun chars => do
  let (a, rest) ← octet? chars
  let (_, rest) ← mark? '.' rest
  let (b, rest) ← octet? rest
  let (_, rest) ← mark? '.' rest
  let (c, rest) ← octet? rest
  let (_, rest) ← mark? '.' rest
  let (d, rest) ← octet? rest
  return ([a, b, c, d], rest)

/-- Reads one group of an IPv6 address, of at most four digits. -/
def group? : Reader Nat := fun chars =>
  let digits := (chars.takeWhile fun c => (Numeral.digit? 16 c).isSome)
  if digits.length > 4 then none else number? 16 0xffff chars

/-- Reads at most `limit` groups of an IPv6 address, the first one only after a colon if
`separated`. The last two may be written as an IPv4 address, which the second component tells. -/
def groups : Nat → Bool → List Char → (List Nat × Bool) × List Char
  | 0, _, chars => (([], false), chars)
  | limit + 1, separated, chars =>
    match (if separated then mark? ':' chars else some ((), chars)) with
    | none => (([], false), chars)
    | some (_, start) =>
      -- The dotted form fills two groups, so the last place has no room for it.
      match (if limit == 0 then none else v4Octets? start) with
      | some ([a, b, c, d], rest) => (([a * 256 + b, c * 256 + d], true), rest)
      | _ =>
        match group? start with
        | some (group, rest) =>
          let ((more, dotted), rest) := groups limit true rest
          ((group :: more, dotted), rest)
        | none => (([], false), chars)

/-- Reads an IPv6 address; two colons stand for at least one group of zeros. -/
def v6Groups? : Reader (List Nat) := fun chars =>
  let ((front, dotted), rest) := groups 8 false chars
  if front.length == 8 then some (front, rest)
  else if dotted then none
  else
    match rest with
    | ':' :: ':' :: rest =>
      let ((back, _), rest) := groups (7 - front.length) false rest
      some (front ++ List.replicate (8 - front.length - back.length) 0 ++ back, rest)
    | _ => none

def port? : Reader Nat := fun chars => do
  let (_, rest) ← mark? ':' chars
  number? 10 0xffff rest

def scope? : Reader Nat := fun chars =>
  match chars with
  | '%' :: rest => number? 10 0xffffffff rest
  | _ => some (0, chars)

def read? : Reader SocketAddress := fun chars =>
  match chars with
  | '[' :: rest => do
    let (parts, rest) ← v6Groups? rest
    let (scope, rest) ← scope? rest
    let (_, rest) ← mark? ']' rest
    let (port, rest) ← port? rest
    return (v6 parts scope port, rest)
  | _ => do
    let (octets, rest) ← v4Octets? chars
    let (port, rest) ← port? rest
    return (v4 octets port, rest)

def invalidMessage : String := "invalid socket address syntax"

/-- Reads an address, which must make up the whole text. -/
def parse (text : String) : Except String SocketAddress :=
  match read? text.toList with
  | some (address, []) => .ok address
  | _ => .error invalidMessage

end SocketAddress

end EmulatorHost
