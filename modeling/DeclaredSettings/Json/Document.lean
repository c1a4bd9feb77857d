import DeclaredSettings.Json.Number
import DeclaredSettings.Json.String

/-!
Values and whole documents in JSON text. Arrays and objects may be nested to a fixed depth;
of several entries of an object with one key the last stays.
-/

namespace DeclaredSettings.Json

open Text

/-- The blanks between the parts of a document. -/
def isBlank (c : Char) : Bool :=
  c == ' ' || c == '\n' || c == '\t' || c == '\r'

/-- The rest of one of the words `null`, `true` and `false`. -/
def word (value : Value) : List Char → Cursor → Except Fault (Value × Cursor)
  | [], cur => .ok (value, cur)
  | c :: cs, cur =>
    match cur.rest with
    | [] => .error ⟨.endInValue, cur.position⟩
    | d :: _ =>
      if d = c then word value cs cur.advance
      else .error ⟨.literalExpected, cur.pastNextByte⟩

/-- The items of an array behind the first, at most `count` of them: an item takes at least
one character, so a list of a text has no more items than the text has characters.
-/
def moreItems (item : Cursor → Except Fault (Value × Cursor))
    : Nat → Cursor → Except Fault (List Value × Cursor)
  | 0, cur => .error ⟨.endInArray, cur.finish⟩
  | count + 1, cur =>
    let cur := cur.skip isBlank
    match cur.rest with
    | [] => .error ⟨.endInArray, cur.position⟩
    | ']' :: _ => .ok ([], cur.advance)
    | ',' :: _ =>
      let cur := cur.advance.skip isBlank
      match cur.rest with
      | [] => .error ⟨.endInValue, cur.position⟩
      | ']' :: _ => .error ⟨.trailingComma, cur.pastNextByte⟩
      | _ => do
        let (first, behind) ← item cur
        let (others, behind) ← moreItems item count behind
        .ok (first :: others, behind)
    | _ => .error ⟨.itemEndExpected, cur.pastNextByte⟩

/-- The items of an array, from behind its opening bracket. -/
def items (item : Cursor → Except Fault (Value × Cursor)) (cur : Cursor)
    : Except Fault (List Value × Cursor) :=
  let cur := cur.skip isBlank
  match cur.rest with
  | [] => .error ⟨.endInArray, cur.position⟩
  | ']' :: _ => .ok ([], cur.advance)
  | _ => do
    let (first, behind) ← item cur
    let (others, behind) ← moreItems item (behind.rest.length + 1) behind
    .ok (first :: others, behind)

/-- One entry of an object, from its key on. -/
def entry (item : Cursor → Except Fault (Value × Cursor)) (cur : Cursor)
    : Except Fault ((String × Value) × Cursor) :=
  match cur.rest with
  | '"' :: _ => do
    let (key, behind) ← string cur.advance
    let behind := behind.skip isBlank
    match behind.rest with
    | [] => .error ⟨.endInObject, behind.position⟩
    | ':' :: _ =>
      let (value, behind) ← item behind.advance
      .ok ((key, value), behind)
    | _ => .error ⟨.colonExpected, behind.pastNextByte⟩
  | _ => .error ⟨.keyNotString, cur.pastNextByte⟩

/-- The entries of an object behind the first, at most `count` of them. -/
def moreEntries (item : Cursor → Except Fault (Value × Cursor))
    : Nat → Cursor → Except Fault (List (String × Value) × Cursor)
  | 0, cur => .error ⟨.endInObject, cur.finish⟩
  | count + 1, cur =>
    let cur := cur.skip isBlank
    match cur.rest with
    | [] => .error ⟨.endInObject, cur.position⟩
    | '\x7d' :: _ => .ok ([], cur.advance)
    | ',' :: _ =>
      let cur := cur.advance.skip isBlank
      match cur.rest with
      | [] => .error ⟨.endInValue, cur.position⟩
      | '\x7d' :: _ => .error ⟨.trailingComma, cur.pastNextByte⟩
      | _ => do
        let (first, behind) ← entry item cur
        let (others, behind) ← moreEntries item count behind
        .ok (first :: others, behind)
    | _ => .error ⟨.entryEndExpected, cur.pastNextByte⟩

/-- The entries of an object, from behind its opening brace. -/
def entries (item : Cursor → Except Fault (Value × Cursor)) (cur : Cursor)
    : Except Fault (List (String × Value) × Cursor) :=
  let cur := cur.skip isBlank
  match cur.rest with
  | [] => .error ⟨.endInObject, cur.position⟩
  | '\x7d' :: _ => .ok ([], cur.advance)
  | _ => do
    let (first, behind) ← entry item cur
    let (others, behind) ← moreEntries item (behind.rest.length + 1) behind
    .ok (first :: others, behind)

/-- A value, in which at most `room` arrays and objects are open at a time. -/
def value (room : Nat) (cur : Cursor) : Except Fault (Value × Cursor) :=
  let cur := cur.skip isBlank
  match cur.rest with
  | [] => .error ⟨.endInValue, cur.position⟩
  | 'n' :: _ => word .null ['u', 'l', 'l'] cur.advance
  | 't' :: _ => word (.bool true) ['r', 'u', 'e'] cur.advance
  | 'f' :: _ => word (.bool false) ['a', 'l', 's', 'e'] cur.advance
  | '"' :: _ => do
    let (s, behind) ← string cur.advance
    .ok (.str s, behind)
  | '[' :: _ =>
    match room with
    | 0 => .error ⟨.nestedTooDeeply, cur.pastNextByte⟩
    | room + 1 => do
      let (list, behind) ← items (value room) cur.advance
      .ok (.arr list, behind)
  | '\x7b' :: _ =>
    match room with
    | 0 => .error ⟨.nestedTooDeeply, cur.pastNextByte⟩
    | room + 1 => do
      let (list, behind) ← entries (value room) cur.advance
      .ok (.ofEntries list, behind)
  | c :: _ =>
    if c == '-' || c.isDigit then number cur else .error ⟨.valueExpected, cur.pastNextByte⟩

/-- How many arrays and objects may be open at a time. -/
def greatestDepth : Nat := 127

/-- The value of a document, behind which only blanks may follow. -/
def document (text : String) : Except Fault Value := do
  let (v, behind) ← value greatestDepth (.ofString text)
  let behind := behind.skip isBlank
  if behind.rest = [] then .ok v else .error ⟨.trailingCharacters, behind.pastNextByte⟩

end DeclaredSettings.Json
