/-!
# Paths

File paths as texts: joining, components, parents, and the expansion of a leading tilde. A path on
the right of a join replaces the left one when it is absolute, and joining the empty path adds a
trailing separator.
-/

namespace EmulatorHost.Path

def isAbsolute (path : List Char) : Bool :=
  path.head? == some '/'

def joinChars (base rest : List Char) : List Char :=
  if isAbsolute rest then rest
  else if base.isEmpty || base.getLast? == some '/' then base ++ rest
  else base ++ '/' :: rest

def join (base rest : String) : String :=
  String.ofList (joinChars base.toList rest.toList)

/-- The pieces between separators, `pending` being the current one, reversed. -/
def piecesFrom (pending : List Char) : List Char → List (List Char)
  | [] => [pending.reverse]
  | c :: rest =>
    if c == '/' then pending.reverse :: piecesFrom [] rest else piecesFrom (c :: pending) rest

/-- The pieces of a path that are not empty, which lead along it one by one. -/
def steps (path : List Char) : List (List Char) :=
  (piecesFrom [] path).filter fun piece => !piece.isEmpty

/-- Empty pieces and single dots name nothing. -/
def isVoid (piece : List Char) : Bool :=
  piece.isEmpty || piece == ['.']

def names (path : List Char) : List (List Char) :=
  (piecesFrom [] path).filter fun piece => !isVoid piece

inductive Component where
  | root
  -- The directory itself, which only stands at the start of a relative path.
  | here
  -- A name, or two dots.
  | name (chars : List Char)
deriving DecidableEq, Repr

def components (path : List Char) : List Component :=
  let start :=
    if isAbsolute path then [Component.root]
    else if (piecesFrom [] path).head? == some ['.'] then [Component.here]
    else []
  start ++ (names path).map Component.name

/-- Pieces without those at the end that name nothing. -/
def withoutVoidEnd (pieces : List (List Char)) : List (List Char) :=
  (pieces.reverse.dropWhile isVoid).reverse

/-- The pieces of a path, cut into the first one, if it stands for the root or for the current
directory, and the others. -/
def rootAndBody (path : List Char) : List (List Char) × List (List Char) :=
  match piecesFrom [] path with
  | first :: rest => if isVoid first then ([first], rest) else ([], first :: rest)
  | [] => ([], [])

/-- The directory that holds what a path names: the path without its last name, written as in the
path itself. A single dot lies in the empty path; the root and the empty path lie nowhere. -/
def parent? (path : String) : Option String :=
  let (root, body) := rootAndBody path.toList
  match (withoutVoidEnd body).getLast? with
  | none => if root == [['.']] then some "" else none
  | some _ =>
    match root, withoutVoidEnd (withoutVoidEnd body).dropLast with
    -- Nothing is left but the separator that stands for the root.
    | [[]], [] => some "/"
    | root, above => some (String.ofList (['/'].intercalate (root ++ above)))

/-- Expands a leading tilde to the home directory; without a home directory the path stays. -/
def expandUser (home : Option String) (path : String) : String :=
  match home, path.toList with
  | some dir, ['~'] => join dir ""
  | some dir, '~' :: '/' :: rest => join dir (String.ofList rest)
  | _, _ => path

end EmulatorHost.Path
