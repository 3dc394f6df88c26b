/-!
# White space

The characters of the Unicode property `White_Space`, and the text operations that rest on it:
trimming and splitting into fields.
-/

namespace EmulatorHost.Text

/-- The Unicode property `White_Space`. -/
def isBlank (c : Char) : Bool :=
  let n := c.toNat
  (0x09 ≤ n && n ≤ 0x0D) || n == 0x20 || n == 0x85 || n == 0xA0 || n == 0x1680 ||
    (0x2000 ≤ n && n ≤ 0x200A) || n == 0x2028 || n == 0x2029 || n == 0x202F || n == 0x205F ||
    n == 0x3000

def trimChars (chars : List Char) : List Char :=
  ((chars.dropWhile isBlank).reverse.dropWhile isBlank).reverse

def trim (text : String) : String :=
  String.ofList (trimChars text.toList)

def isBlankText (text : String) : Bool :=
  text.toList.all isBlank

/-- The maximal blank-free pieces of a text, `pending` being the last one read so far, reversed. -/
def fieldsFrom (pending : List Char) : List Char → List (List Char)
  | [] => if pending.isEmpty then [] else [pending.reverse]
  | c :: rest =>
    if isBlank c then
      if pending.isEmpty then fieldsFrom [] rest else pending.reverse :: fieldsFrom [] rest
    else fieldsFrom (c :: pending) rest

/-- The maximal blank-free pieces of a text, in order. -/
def fields (chars : List Char) : List (List Char) :=
  fieldsFrom [] chars

end EmulatorHost.Text
