import EmulatorHost.Bytes

/-!
# Addresses of an agent

The agent is reached at the address `http://` followed by what was given. Before anything is dialled
the address is checked as a URI: its authority, and then the path and the query that may follow it.
-/

namespace EmulatorHost.CommandLine

inductive AddressFault where
  | empty
  | character
  | authority
  -- A path or a query without an authority before it.
  | format
  | tooLong
deriving DecidableEq, Repr, Inhabited

namespace AddressFault

def message : AddressFault → String
  | empty => "InvalidUri(Empty)"
  | character => "InvalidUri(InvalidUriChar)"
  | authority => "InvalidUri(InvalidAuthority)"
  | format => "InvalidUri(InvalidFormat)"
  | tooLong => "InvalidUri(TooLong)"

end AddressFault

namespace Endpoint

def scheme : Bytes := Bytes.ofString "http://"

def maxLength : Nat := 65534

/-- The most colons between two of the characters that set their count back. -/
def maxColons : Nat := 8

/-- The punctuation that an authority may contain without further rules. -/
def authorityMarks : Bytes := Bytes.ofString "!$&'()*+,-.;=_~"

def isAuthorityByte (byte : UInt8) : Bool :=
  let n := byte.toNat
  (48 ≤ n && n ≤ 57) || (65 ≤ n && n ≤ 90) || (97 ≤ n && n ≤ 122) || authorityMarks.contains byte

/-- What is known about the beginning of an authority: the colons since they were last counted from
zero, the brackets, whether a percent sign is in the host so far, and whether the last character was
an at sign. -/
structure Authority where
  colons : Nat := 0
  isOpened : Bool := false
  isClosed : Bool := false
  hasPercent : Bool := false
  endsInAt : Bool := false
deriving DecidableEq, Repr, Inhabited

namespace Authority

/-- Takes one more character: `/`, `?` and `#` are not among them. -/
def add (authority : Authority) (byte : UInt8) : Except AddressFault Authority :=
  let next := { authority with endsInAt := false }
  if byte == 0x3a then
    if authority.colons ≥ maxColons then .error .authority
    else .ok { next with colons := authority.colons + 1 }
  else if byte == 0x5b then
    if authority.hasPercent || authority.isOpened then .error .authority
    else .ok { next with isOpened := true }
  else if byte == 0x5d then
    if !authority.isOpened || authority.isClosed then .error .authority
    else .ok { next with isClosed := true, colons := 0, hasPercent := false }
  else if byte == 0x40 then .ok { next with colons := 0, hasPercent := false, endsInAt := true }
  else if byte == 0x25 then .ok { next with hasPercent := true }
  else if isAuthorityByte byte then .ok next
  else .error .character

def isComplete (authority : Authority) : Bool :=
  authority.isOpened == authority.isClosed && authority.colons ≤ 1 && !authority.endsInAt &&
    !authority.hasPercent

end Authority

def endsAuthority (byte : UInt8) : Bool :=
  byte == 0x2f || byte == 0x3f || byte == 0x23

/-- Reads an authority; what follows it is answered, with whether the authority is empty. -/
def readAuthority (authority : Authority) (isEmpty : Bool) :
    Bytes → Except AddressFault (Bool × Bytes)
  | [] => if authority.isComplete then .ok (isEmpty, []) else .error .authority
  | byte :: rest =>
    if endsAuthority byte then
      if authority.isComplete then .ok (isEmpty, byte :: rest) else .error .authority
    else
      match authority.add byte with
      | .error fault => .error fault
      | .ok authority => readAuthority authority false rest

/-- The characters that are refused in paths: the angle brackets, the grave accent, and the delete
character. -/
def pathMarks : Bytes := [0x3c, 0x3e, 0x60, 0x7f]

def isPathByte (byte : UInt8) : Bool :=
  0x21 ≤ byte && !pathMarks.contains byte

/-- The characters that are refused in queries: the double quote, the angle brackets, and the
delete character. -/
def queryMarks : Bytes := [0x22, 0x3c, 0x3e, 0x7f]

def isQueryByte (byte : UInt8) : Bool :=
  0x21 ≤ byte && !queryMarks.contains byte

/-- Checks a path and the query after it; a fragment may be anything. -/
def checkPath (inQuery : Bool) : Bytes → Except AddressFault Unit
  | [] => .ok ()
  | byte :: rest =>
    if byte == 0x23 then .ok ()
    else if !inQuery && byte == 0x3f then checkPath true rest
    else if (if inQuery then isQueryByte byte else isPathByte byte) then checkPath inQuery rest
    else .error .character

def check (addr : String) : Except AddressFault Unit :=
  let bytes := Bytes.ofString addr
  if scheme.length + bytes.length > maxLength then .error .tooLong
  else if bytes.isEmpty then .error .empty
  else
    match readAuthority {} true bytes with
    | .error fault => .error fault
    | .ok (true, _) => .error .format
    | .ok (false, rest) => checkPath false rest

end Endpoint

end EmulatorHost.CommandLine
