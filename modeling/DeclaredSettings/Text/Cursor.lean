/-!
Places in a text: the line and the column of a place, columns counted in bytes of UTF-8, and
a cursor, which is a place together with the characters from there on.
-/

namespace DeclaredSettings.Text

/-- A place in a text. Lines count from one, columns from zero. -/
structure Position where
  line : Nat
  column : Nat
  deriving DecidableEq, Repr

namespace Position

/-- The start of a text. -/
def start : Position := ⟨1, 0⟩

/-- The place behind a character. -/
def past (p : Position) (c : Char) : Position :=
  if c = '\n' then ⟨p.line + 1, 0⟩ else ⟨p.line, p.column + c.utf8Size⟩

/-- The place behind some characters. -/
def pastAll (p : Position) (cs : List Char) : Position :=
  cs.foldl past p

/-- The place behind the first `count` bytes of some characters, which may end inside one. -/
def pastBytes (p : Position) : Nat → List Char → Position
  | 0, _ => p
  | _, [] => p
  | count, c :: cs =>
    if c.utf8Size ≤ count then (p.past c).pastBytes (count - c.utf8Size) cs
    else ⟨p.line, p.column + count⟩

end Position

/-- A place in a text and the characters from there on. -/
structure Cursor where
  rest : List Char
  position : Position
  deriving Repr

namespace Cursor

/-- The start of a text. -/
def ofString (text : String) : Cursor :=
  ⟨text.toList, .start⟩

/-- The cursor behind the next character; at the end it stays. -/
def advance (cur : Cursor) : Cursor :=
  match cur.rest with
  | [] => cur
  | c :: rest => ⟨rest, cur.position.past c⟩

/-- The place behind the next byte; at the end the place itself. -/
def pastNextByte (cur : Cursor) : Position :=
  cur.position.pastBytes 1 cur.rest

/-- The longest run of characters of a class, and the cursor behind it. -/
def run (cur : Cursor) (p : Char → Bool) : List Char × Cursor :=
  let taken := cur.rest.takeWhile p
  (taken, ⟨cur.rest.dropWhile p, cur.position.pastAll taken⟩)

/-- The cursor behind a run of characters of a class. -/
def skip (cur : Cursor) (p : Char → Bool) : Cursor :=
  (cur.run p).2

/-- The place behind the last character of the text. -/
def finish (cur : Cursor) : Position :=
  cur.position.pastAll cur.rest

end Cursor

end DeclaredSettings.Text
