import EmulatorHost.Text.Utf8

/-!
# Lines

A line ends at a line feed, and one carriage return just before the line feed belongs to the line
end. What follows the last line feed is a line too, unless it is empty, and keeps its carriage
return. The rule is the same for texts and for byte streams.
-/

namespace EmulatorHost.Text

/-- Splits at each `separator`, with the ended pieces in `done` and the current one in `piece`, both
reversed. -/
def splitOnto {α : Type} [BEq α] (separator : α) (done : List (List α)) (piece : List α) :
    List α → List (List α) × List α
  | [] => (done.reverse, piece.reverse)
  | x :: rest =>
    if x == separator then splitOnto separator (piece.reverse :: done) [] rest
    else splitOnto separator done (x :: piece) rest

/-- The pieces that a separator ends, in order, and the rest that none ends. -/
def splitAtEach {α : Type} [BEq α] (separator : α) (items : List α) : List (List α) × List α :=
  splitOnto separator [] [] items

def dropTrailing {α : Type} [BEq α] (mark : α) (items : List α) : List α :=
  match items.getLast? with
  | some last => if last == mark then items.dropLast else items
  | none => items

/-- The lines of a sequence whose lines end at `feed`, one `back` before it being dropped. -/
def linesAt {α : Type} [BEq α] (feed back : α) (items : List α) : List (List α) :=
  let (ended, rest) := splitAtEach feed items
  ended.map (dropTrailing back) ++ if rest.isEmpty then [] else [rest]

def lines (chars : List Char) : List (List Char) :=
  linesAt '\n' '\r' chars

def rawLines (bytes : Bytes) : List Bytes :=
  linesAt 10 13 bytes

/-- What the leading elements read as, up to the first that cannot be read. -/
def leadingSome {α β : Type} (read : α → Option β) : List α → List β
  | [] => []
  | x :: rest =>
    match read x with
    | some y => y :: leadingSome read rest
    | none => []

/-- The lines that a strict line reader yields: it stops at the first line that is not UTF-8. -/
def strictLines (bytes : Bytes) : List String :=
  leadingSome Utf8.decode? (rawLines bytes)

end EmulatorHost.Text
