import DeclaredSettings.Proofs.Entries.LookupLaws
import DeclaredSettings.Proofs.Json.TokenReading

/-! Values are read back from their text. The induction is on how the value is nested, with
arbitrary text behind it; the lists of items and entries are gone through one by one, each
reading what its printer wrote.
-/

namespace DeclaredSettings

open Text

/-- Values that can be read back from their text: without floating-point numbers, with whole
numbers within the limits and objects in ascending order of their keys, and with at most
`room` arrays and objects inside one another.
-/
inductive Value.Readable : Nat → Value → Prop
  | null {room} : Readable room .null
  | bool {room} (b) : Readable room (.bool b)
  | int {room n} (least : minInt ≤ n) (greatest : n ≤ maxInt) : Readable room (.int n)
  | str {room} (s) : Readable room (.str s)
  | arr {room items} (inside : ∀ item ∈ items, Readable room item)
    : Readable (room + 1) (.arr items)
  | obj {room entries} (ascending : Entries.Ascending entries)
    (inside : ∀ e ∈ entries, Readable room e.2)
    : Readable (room + 1) (.obj entries)

namespace Json

-----------------------------------------------------------------------------------------
-- How values begin and end
-----------------------------------------------------------------------------------------

/-- The rest of a word is read as its value, by induction on the characters. -/
theorem reads_word (v : Value) (cs rest : List Char) : Reads (word v cs) cs v rest := by
  intro p
  induction cs generalizing p with
  | nil => rfl
  | cons c cs ih =>
      simp only [List.cons_append, word, if_true]
      exact ih (p.past c)

/-- A text that begins neither with a blank nor with the end of an array or an object. -/
def Begins (cs : List Char) : Prop :=
  ∃ first others,
    cs = first :: others ∧ isBlank first = false ∧ first ≠ ']' ∧ first ≠ '\x7d'

theorem Begins.append {cs : List Char} (h : Begins cs) (rest : List Char)
    : Begins (cs ++ rest) := by
  obtain ⟨first, others, rfl, hfirst⟩ := h
  exact ⟨first, others ++ rest, rfl, hfirst⟩

theorem Begins.skip_eq_self {cs : List Char} (h : Begins cs) (p : Position)
    : (Cursor.mk cs p).skip isBlank = ⟨cs, p⟩ := by
  obtain ⟨first, others, rfl, hblank, _⟩ := h
  refine Cursor.skip_eq_self fun c hc => ?_
  obtain rfl := Option.some.inj hc
  exact hblank

theorem begins_number {c : Char} (h : c = '-' ∨ c.isDigit = true) (cs : List Char)
    : Begins (c :: cs) := by
  rcases h with rfl | hdigit
  · exact ⟨'-', cs, rfl, by decide⟩
  · refine ⟨c, cs, rfl, ?_, ?_, ?_⟩
    · rw [← Bool.not_eq_true]
      intro hblank
      simp only [isBlank, Bool.or_eq_true, beq_iff_eq] at hblank
      rcases hblank with ((rfl | rfl) | rfl) | rfl <;> exact absurd hdigit (by decide)
    · rintro rfl
      exact absurd hdigit (by decide)
    · rintro rfl
      exact absurd hdigit (by decide)

/-- The text of a value begins in this way, by cases on the value. -/
theorem Begins.of_readable {room : Nat} {v : Value} (h : v.Readable room)
    : Begins v.chars := by
  cases h with
  | null => exact ⟨_, _, rfl, by decide⟩
  | bool b => cases b <;> exact ⟨_, _, rfl, by decide⟩
  | str s => exact ⟨'"', _, rfl, by decide⟩
  | @int _ n least greatest =>
      obtain ⟨first, others, hchars, hfirst⟩ := exists_intChars_eq_cons n
      simp only [Value.chars, hchars]
      exact begins_number hfirst others
  | @arr _ items _ =>
      cases items <;> exact ⟨'[', _, rfl, by decide⟩
  | @obj _ entries _ _ =>
      cases entries <;> exact ⟨'\x7b', _, rfl, by decide⟩

-----------------------------------------------------------------------------------------
-- Arrays
-----------------------------------------------------------------------------------------

section Nested

variable {item : Cursor → Except Fault (Value × Cursor)}

/-- A reader of values takes the text of this one, in front of all that ends a number. -/
def ReadsValue (item : Cursor → Except Fault (Value × Cursor)) (v : Value) : Prop :=
  Begins v.chars ∧ ∀ rest, EndsNumber rest → Reads item v.chars v rest

theorem moreItems_comma {cs : List Char} (h : Begins cs) (count : Nat) (p : Position)
    : moreItems item (count + 1) ⟨',' :: cs, p⟩ = (do
        let first ← item ⟨cs, p.past ','⟩
        let others ← moreItems item count first.2
        .ok (first.1 :: others.1, others.2)) := by
  have hcomma : (Cursor.mk (',' :: cs) p).skip isBlank = ⟨',' :: cs, p⟩ := rfl
  have hskip := h.skip_eq_self (p.past ',')
  obtain ⟨first, others, rfl, _, hbracket, _⟩ := h
  simp only [moreItems, hcomma, Cursor.advance, hskip]
  split
  · next heq => exact absurd heq (List.cons_ne_nil _ _)
  · next heq => exact absurd (List.cons.inj heq).1 hbracket
  · rfl

/-- An array that does not end at once begins with an item. -/
theorem items_of_begins {cs : List Char} (h : Begins cs) (p : Position)
    : items item ⟨cs, p⟩ = (do
        let first ← item ⟨cs, p⟩
        let others ← moreItems item (first.2.rest.length + 1) first.2
        .ok (first.1 :: others.1, others.2)) := by
  have hskip := h.skip_eq_self p
  obtain ⟨first, others, rfl, _, hbracket, _⟩ := h
  simp only [items, hskip]
  split
  · next heq => exact absurd heq (List.cons_ne_nil _ _)
  · next heq => exact absurd (List.cons.inj heq).1 hbracket
  · rfl

theorem endsNumber_cons {c : Char} (h : c = ',' ∨ c = ']' ∨ c = '\x7d')
    (rest : List Char)
    : EndsNumber (c :: rest) := by
  intro d hd
  obtain rfl := Option.some.inj hd
  rcases h with rfl | rfl | rfl <;> decide

theorem endsNumber_moreItems (items : List Value) (rest : List Char)
    : EndsNumber (Value.moreItems items ++ rest) := by
  cases items with
  | nil => exact endsNumber_cons (.inr (.inl rfl)) _
  | cons v items => exact endsNumber_cons (.inl rfl) _

/-- The items behind the first are read up to the end of the array, by induction on them. -/
theorem reads_moreItems {items : List Value} (h : ∀ v ∈ items, ReadsValue item v)
    {count : Nat} (hcount : items.length < count) (rest : List Char)
    : Reads (moreItems item count) (Value.moreItems items) items rest := by
  intro p
  induction items generalizing count p with
  | nil =>
      obtain ⟨count, rfl⟩ := Nat.exists_eq_add_one_of_ne_zero (Nat.ne_zero_of_lt hcount)
      rfl
  | cons v items ih =>
      obtain ⟨count, rfl⟩ := Nat.exists_eq_add_one_of_ne_zero (Nat.ne_zero_of_lt hcount)
      obtain ⟨⟨hbegins, hfirst⟩, hothers⟩ := List.forall_mem_cons.mp h
      have hvalue := hfirst _ (endsNumber_moreItems items rest) (p.past ',')
      have hmore := ih hothers (Nat.lt_of_succ_lt_succ hcount)
        ((p.past ',').pastAll v.chars)
      simp only [Value.moreItems, List.cons_append, List.append_assoc]
      rw [moreItems_comma (hbegins.append _), hvalue]
      simp only [bind, Except.bind, hmore, Position.pastAll_cons, Position.pastAll_append]

/-- An array has no more items than characters. -/
theorem length_lt_length_moreItems (items : List Value)
    : items.length < (Value.moreItems items).length := by
  induction items with
  | nil => exact Nat.one_pos
  | cons v items ih =>
      simp only [Value.moreItems, List.cons_append, List.length_cons, List.length_append]
      omega

/-- The items of an array are read from behind its opening bracket. -/
theorem reads_items {v : Value} {others : List Value} (h : ∀ w ∈ v :: others, ReadsValue item w)
    (rest : List Char)
    : Reads (items item) (v.chars ++ Value.moreItems others) (v :: others) rest := by
  intro p
  obtain ⟨⟨hbegins, hfirst⟩, hothers⟩ := List.forall_mem_cons.mp h
  have hvalue := hfirst _ (endsNumber_moreItems others rest) p
  have hcount : others.length < (Value.moreItems others ++ rest).length + 1 := by
    have hlength := length_lt_length_moreItems others
    simp only [List.length_append]
    omega
  have hmore := reads_moreItems hothers hcount rest (p.pastAll v.chars)
  rw [List.append_assoc, items_of_begins (hbegins.append _), hvalue]
  simp only [bind, Except.bind, hmore, Position.pastAll_append]

-----------------------------------------------------------------------------------------
-- Objects
-----------------------------------------------------------------------------------------

/-- The entries of an object behind a comma or its opening brace begin with a quote. -/
theorem begins_quoted (key : String) (cs : List Char) : Begins (Value.quoted key ++ cs) :=
  ⟨'"', _, rfl, by decide⟩

/-- One entry is read from its key on. -/
theorem reads_entry (key : String) {v : Value} {rest : List Char}
    (h : Reads item v.chars v rest)
    : Reads (entry item) (Value.quoted key ++ ':' :: v.chars) (key, v) rest := by
  intro p
  have hquoted : Value.quoted key = '"' :: (key.toList.flatMap Value.escaped ++ ['"']) := rfl
  have hkey := reads_string key (':' :: (v.chars ++ rest)) (p.past '"')
  have hcolon : ∀ q, (Cursor.mk (':' :: (v.chars ++ rest)) q).skip isBlank
      = ⟨':' :: (v.chars ++ rest), q⟩ := fun _ => rfl
  have hvalue := fun q => h (Position.past q ':')
  rw [List.append_assoc, hquoted]
  simp only [entry, List.cons_append, Cursor.advance, hkey, bind, Except.bind, hcolon, hvalue,
    Position.pastAll_cons, Position.pastAll_append]

theorem moreEntries_comma {cs : List Char} (h : Begins cs) (count : Nat) (p : Position)
    : moreEntries item (count + 1) ⟨',' :: cs, p⟩ = (do
        let first ← entry item ⟨cs, p.past ','⟩
        let others ← moreEntries item count first.2
        .ok (first.1 :: others.1, others.2)) := by
  have hcomma : (Cursor.mk (',' :: cs) p).skip isBlank = ⟨',' :: cs, p⟩ := rfl
  have hskip := h.skip_eq_self (p.past ',')
  obtain ⟨first, others, rfl, _, _, hbrace⟩ := h
  simp only [moreEntries, hcomma, Cursor.advance, hskip]
  split
  · next heq => exact absurd heq (List.cons_ne_nil _ _)
  · next heq => exact absurd (List.cons.inj heq).1 hbrace
  · rfl

/-- An object that does not end at once begins with an entry. -/
theorem entries_of_begins {cs : List Char} (h : Begins cs) (p : Position)
    : entries item ⟨cs, p⟩ = (do
        let first ← entry item ⟨cs, p⟩
        let others ← moreEntries item (first.2.rest.length + 1) first.2
        .ok (first.1 :: others.1, others.2)) := by
  have hskip := h.skip_eq_self p
  obtain ⟨first, others, rfl, _, _, hbrace⟩ := h
  simp only [entries, hskip]
  split
  · next heq => exact absurd heq (List.cons_ne_nil _ _)
  · next heq => exact absurd (List.cons.inj heq).1 hbrace
  · rfl

theorem endsNumber_moreEntries (others : List (String × Value)) (rest : List Char)
    : EndsNumber (Value.moreEntries others ++ rest) := by
  cases others with
  | nil => exact endsNumber_cons (.inr (.inr rfl)) _
  | cons e others => exact endsNumber_cons (.inl rfl) _

/-- The entries behind the first are read up to the end of the object, by induction on
them.
-/
theorem reads_moreEntries {others : List (String × Value)}
    (h : ∀ e ∈ others, ReadsValue item e.2) {count : Nat} (hcount : others.length < count)
    (rest : List Char)
    : Reads (moreEntries item count) (Value.moreEntries others) others rest := by
  intro p
  induction others generalizing count p with
  | nil =>
      obtain ⟨count, rfl⟩ := Nat.exists_eq_add_one_of_ne_zero (Nat.ne_zero_of_lt hcount)
      rfl
  | cons e others ih =>
      obtain ⟨count, rfl⟩ := Nat.exists_eq_add_one_of_ne_zero (Nat.ne_zero_of_lt hcount)
      obtain ⟨key, v⟩ := e
      obtain ⟨⟨_, hfirst⟩, hothers⟩ := List.forall_mem_cons.mp h
      have hentry := reads_entry key (hfirst _ (endsNumber_moreEntries others rest))
        (p.past ',')
      have hmore := ih hothers (Nat.lt_of_succ_lt_succ hcount)
        ((p.past ',').pastAll (Value.quoted key ++ ':' :: v.chars))
      simp only [List.cons_append, List.append_assoc] at hentry
      simp only [Value.moreEntries, List.cons_append, List.append_assoc]
      rw [moreEntries_comma (begins_quoted key _), hentry]
      simp only [bind, Except.bind, hmore]
      simp only [Position.pastAll_cons, Position.pastAll_append]

/-- An object has no more entries than characters. -/
theorem length_lt_length_moreEntries (others : List (String × Value))
    : others.length < (Value.moreEntries others).length := by
  induction others with
  | nil => exact Nat.one_pos
  | cons e others ih =>
      simp only [Value.moreEntries, List.cons_append, List.length_cons, List.length_append]
      omega

/-- The entries of an object are read from behind its opening brace. -/
theorem reads_entries {key : String} {v : Value} {others : List (String × Value)}
    (h : ∀ e ∈ (key, v) :: others, ReadsValue item e.2) (rest : List Char)
    : Reads (entries item)
        (Value.quoted key ++ ':' :: v.chars ++ Value.moreEntries others)
        ((key, v) :: others) rest := by
  intro p
  obtain ⟨⟨_, hfirst⟩, hothers⟩ := List.forall_mem_cons.mp h
  have hentry := reads_entry key (hfirst _ (endsNumber_moreEntries others rest)) p
  have hcount : others.length < (Value.moreEntries others ++ rest).length + 1 := by
    have hlength := length_lt_length_moreEntries others
    simp only [List.length_append]
    omega
  have hmore := reads_moreEntries hothers hcount rest
    (p.pastAll (Value.quoted key ++ ':' :: v.chars))
  simp only [List.cons_append, List.append_assoc] at hentry ⊢
  rw [entries_of_begins (begins_quoted key _), hentry]
  simp only [bind, Except.bind, hmore]
  simp only [Position.pastAll_cons, Position.pastAll_append]

end Nested

-----------------------------------------------------------------------------------------
-- Values and documents
-----------------------------------------------------------------------------------------

section Dispatch

variable (room : Nat) (cs : List Char) (p : Position)

theorem value_quote
    : value room ⟨'"' :: cs, p⟩ = (do
        let s ← string ⟨cs, p.past '"'⟩
        .ok (.str s.1, s.2)) := by
  unfold value
  rfl

/-- Behind a bracket stands an array, which takes one of the room. -/
theorem value_bracket
    : value (room + 1) ⟨'[' :: cs, p⟩ = (do
        let list ← items (value room) ⟨cs, p.past '['⟩
        .ok (.arr list.1, list.2)) := by
  rw [value]
  rfl

/-- Behind a brace stands an object, which takes one of the room. -/
theorem value_brace
    : value (room + 1) ⟨'\x7b' :: cs, p⟩ = (do
        let list ← entries (value room) ⟨cs, p.past '\x7b'⟩
        .ok (.ofEntries list.1, list.2)) := by
  rw [value]
  rfl

theorem value_number {c : Char} (h : c = '-' ∨ c.isDigit = true)
    : value room ⟨c :: cs, p⟩ = number ⟨c :: cs, p⟩ := by
  have hother : ∀ other, other ≠ '-' → other.isDigit = false → c ≠ other := by
    rintro other hsign hdigit rfl
    rcases h with rfl | h
    · exact hsign rfl
    · exact Bool.false_ne_true (hdigit.symm.trans h)
  unfold value
  simp only [(begins_number h cs).skip_eq_self]
  split
  · next heq => exact absurd heq (List.cons_ne_nil _ _)
  · next heq => exact absurd (List.cons.inj heq).1 (hother _ (by decide) (by decide))
  · next heq => exact absurd (List.cons.inj heq).1 (hother _ (by decide) (by decide))
  · next heq => exact absurd (List.cons.inj heq).1 (hother _ (by decide) (by decide))
  · next heq => exact absurd (List.cons.inj heq).1 (hother _ (by decide) (by decide))
  · next heq => exact absurd (List.cons.inj heq).1 (hother _ (by decide) (by decide))
  · next heq => exact absurd (List.cons.inj heq).1 (hother _ (by decide) (by decide))
  · next heq =>
    obtain ⟨rfl, rfl⟩ := List.cons.inj heq
    rcases h with rfl | hdigit
    · rfl
    · simp only [hdigit, Bool.or_true, if_true]

end Dispatch

/-- A value that can be read back is read from its text, by induction on how it is nested.
-/
theorem readsValue_of_readable {room : Nat} {v : Value} (h : v.Readable room)
    : ReadsValue (value room) v := by
  refine ⟨.of_readable h, fun rest hrest p => ?_⟩
  induction h generalizing rest p with
  | null =>
      unfold value
      exact reads_word .null ['u', 'l', 'l'] rest (p.past 'n')
  | bool b =>
      unfold value
      cases b with
      | true => exact reads_word (.bool true) ['r', 'u', 'e'] rest (p.past 't')
      | false => exact reads_word (.bool false) ['a', 'l', 's', 'e'] rest (p.past 'f')
  | str s =>
      have hquoted : (Value.str s).chars ++ rest
          = '"' :: (s.toList.flatMap Value.escaped ++ ['"'] ++ rest) := rfl
      rw [hquoted, value_quote, reads_string s rest (p.past '"')]
      rfl
  | @int room n least greatest =>
      obtain ⟨first, others, hchars, hfirst⟩ := exists_intChars_eq_cons n
      have hnumber := reads_number least greatest hrest p
      simp only [Value.chars]
      rw [hchars, List.cons_append] at hnumber ⊢
      rw [value_number room _ p hfirst, hnumber]
  | @arr room items inside ih =>
      cases items with
      | nil =>
        rw [show (Value.arr []).chars ++ rest = '[' :: ']' :: rest from rfl, value_bracket]
        rfl
      | cons v others =>
        have h : ∀ w ∈ v :: others, ReadsValue (value room) w := fun w hw =>
          ⟨.of_readable (inside w hw), fun rest hrest p => ih w hw rest hrest p⟩
        have hchars : (Value.arr (v :: others)).chars ++ rest
            = '[' :: (v.chars ++ Value.moreItems others ++ rest) := rfl
        rw [hchars, value_bracket, reads_items h rest (p.past '[')]
        rfl
  | @obj room entries ascending inside ih =>
      cases entries with
      | nil =>
        rw [show (Value.obj []).chars ++ rest = '\x7b' :: '\x7d' :: rest from rfl,
          value_brace]
        rfl
      | cons e others =>
        obtain ⟨key, v⟩ := e
        have h : ∀ e ∈ (key, v) :: others, ReadsValue (value room) e.2 := fun e he =>
          ⟨.of_readable (inside e he), fun rest hrest p => ih e he rest hrest p⟩
        have hchars : (Value.obj ((key, v) :: others)).chars ++ rest
            = '\x7b' :: (Value.quoted key ++ ':' :: v.chars ++ Value.moreEntries others
              ++ rest) := rfl
        rw [hchars, value_brace, reads_entries h rest (p.past '\x7b')]
        simp only [bind, Except.bind, Value.ofEntries,
          Entries.insertAll_nil_of_ascending ascending]
        rfl

theorem document_text {v : Value} (h : v.Readable greatestDepth) : document v.text = .ok v := by
  have hread := (readsValue_of_readable h).2 [] (fun c hc => nomatch hc) .start
  rw [List.append_nil] at hread
  have hstart : Cursor.ofString v.text = ⟨v.chars, .start⟩ := by
    rw [Cursor.ofString, Value.text, String.toList_ofList]
  simp only [document, hstart, hread, bind, Except.bind]
  rfl

end Json

end DeclaredSettings
