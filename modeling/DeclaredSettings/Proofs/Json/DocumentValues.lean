import DeclaredSettings.Proofs.Json.ValueReading
import DeclaredSettings.Proofs.Outcome.Sequencing

/-! What the reader of documents gives: whole numbers within the limits, entries of objects in
ascending order of their keys, and no deeper nesting than there is room for. So whatever it
gave can be written out and read back, unless a floating-point number is in it.
-/

namespace DeclaredSettings

open Outcome Text

/-- Values as they are read with some room: whole numbers are within the limits, objects in
ascending order of their keys, and at most `room` arrays and objects inside one another.
-/
inductive Value.Formed : Nat → Value → Prop
  | null {room} : Formed room .null
  | bool {room} (b) : Formed room (.bool b)
  | int {room n} (least : minInt ≤ n) (greatest : n ≤ maxInt) : Formed room (.int n)
  | float {room} (x) : Formed room (.float x)
  | str {room} (s) : Formed room (.str s)
  | arr {room items} (inside : ∀ item ∈ items, Formed room item)
    : Formed (room + 1) (.arr items)
  | obj {room entries} (ascending : Entries.Ascending entries)
    (inside : ∀ e ∈ entries, Formed room e.2)
    : Formed (room + 1) (.obj entries)

/-- Values that hold no floating-point number. -/
inductive Value.FloatFree : Value → Prop
  | null : FloatFree .null
  | bool (b) : FloatFree (.bool b)
  | int (n) : FloatFree (.int n)
  | str (s) : FloatFree (.str s)
  | arr {items} (inside : ∀ item ∈ items, FloatFree item) : FloatFree (.arr items)
  | obj {entries} (inside : ∀ e ∈ entries, FloatFree e.2) : FloatFree (.obj entries)

/-- A value as it is read can be read back if it holds no floating-point number, by
induction on how it is nested.
-/
theorem Value.Formed.readable {room : Nat} {v : Value} (h : v.Formed room)
    (hfree : v.FloatFree)
    : v.Readable room := by
  induction h with
  | null => exact .null
  | bool b => exact .bool b
  | int least greatest => exact .int least greatest
  | float x => cases hfree
  | str s => exact .str s
  | arr _ ih =>
      cases hfree with
      | arr hitems => exact .arr fun item hitem => ih item hitem (hitems item hitem)
  | obj ascending _ ih =>
      cases hfree with
      | obj hentries => exact .obj ascending fun e he => ih e he (hentries e he)

namespace Json

/-- Whatever a reader gives has a property. -/
def Gives {α : Type} (reader : Cursor → Except Fault (α × Cursor)) (p : α → Prop) : Prop :=
  ∀ cur a behind, reader cur = .ok (a, behind) → p a

/-- The rest of a word gives the value of the word, by induction on the characters. -/
theorem gives_word (v : Value) (cs : List Char) : Gives (word v cs) (· = v) := by
  intro cur a behind h
  induction cs generalizing cur with
  | nil => cases h; rfl
  | cons c cs ih =>
      unfold word at h
      split at h
      · cases h
      · split at h
        · exact ih _ h
        · cases h

-----------------------------------------------------------------------------------------
-- Numbers
-----------------------------------------------------------------------------------------

/-- Numbers as they are read, in any room. -/
def NumberFormed (v : Value) : Prop :=
  ∀ room, v.Formed room

/-- A whole number of at most 64 bits is within the limits, or is no whole number. -/
theorem formed_wholeValue {n : Nat} (h : n < Gathered.limit) (negative : Bool)
    : NumberFormed (wholeValue negative n) := by
  intro room
  simp only [Gathered.limit] at h
  unfold wholeValue
  split
  · split
    · next hwithin =>
      simp only [Bool.and_eq_true, decide_eq_true_eq] at hwithin
      refine .int hwithin.2 ?_
      simp only [Value.maxInt]
      omega
    · exact .float _
  · refine .int ?_ ?_
    · simp only [Value.minInt]
      omega
    · simp only [Value.maxInt]
      omega

theorem formed_floatValue {negative : Bool} {g : Gathered} {cur behind : Cursor} {v : Value}
    (h : floatValue negative g cur = .ok (v, behind))
    : NumberFormed v := by
  unfold floatValue at h
  split at h
  · cases h
    exact fun room => .float _
  · cases h

theorem gives_exponentPart (negative : Bool) (g : Gathered)
    : Gives (exponentPart negative g) NumberFormed := by
  intro cur v behind h
  unfold exponentPart at h
  split at h
  simp only at h
  split at h
  · split at h <;> cases h
  · split at h
    · split at h
      · cases h
      · cases h
        exact fun room => .float _
    · exact formed_floatValue h

theorem gives_fractionPart (negative : Bool) (g : Gathered)
    : Gives (fractionPart negative g) NumberFormed := by
  intro cur v behind h
  simp only [fractionPart] at h
  split at h
  · split at h <;> cases h
  · unfold afterFraction at h
    split at h
    · exact gives_exponentPart _ _ _ _ _ h
    · exact gives_exponentPart _ _ _ _ _ h
    · exact formed_floatValue h

/-- Behind the digits in front of the point a number of either kind is given. -/
theorem gives_afterWhole (negative : Bool) (digits : List Nat)
    : Gives (afterWhole negative digits) NumberFormed := by
  intro cur v behind h
  unfold afterWhole at h
  split at h
  · exact gives_fractionPart _ _ _ _ _ h
  · exact gives_exponentPart _ _ _ _ _ h
  · exact gives_exponentPart _ _ _ _ _ h
  · split at h
    · next hlimit =>
      cases h
      exact formed_wholeValue hlimit negative
    · exact formed_floatValue h

theorem gives_unsigned (negative : Bool) : Gives (unsigned negative) NumberFormed := by
  intro cur v behind h
  simp only [unsigned] at h
  split at h
  · cases h
  · split at h
    · split at h
      · cases h
      · exact gives_afterWhole _ _ _ _ _ h
    · exact gives_afterWhole _ _ _ _ _ h
  · split at h
    · cases h
    · exact gives_afterWhole _ _ _ _ _ h

theorem gives_number : Gives number NumberFormed := by
  intro cur v behind h
  unfold number at h
  split at h
  · exact gives_unsigned _ _ _ _ h
  · exact gives_unsigned _ _ _ _ h

-----------------------------------------------------------------------------------------
-- Arrays and objects
-----------------------------------------------------------------------------------------

/-- A first result and the others behind it have the property that both readers give. -/
theorem forall_of_first_others {α : Type} {p : α → Prop}
    {reader : Cursor → Except Fault (α × Cursor)} (hreader : Gives reader p)
    {more : Cursor → Except Fault (List α × Cursor)}
    (hmore : Gives more fun list => ∀ a ∈ list, p a) {cur behind : Cursor} {list : List α}
    (h
      : (do
          let (first, behind) ← reader cur
          let (others, behind) ← more behind
          .ok (first :: others, behind)) = Except.ok (list, behind))
    : ∀ a ∈ list, p a := by
  obtain ⟨⟨first, behindFirst⟩, hfirst, h⟩ := bind_eq_ok.mp h
  obtain ⟨⟨others, behindOthers⟩, hothers, h⟩ := bind_eq_ok.mp h
  cases h
  exact List.forall_mem_cons.mpr ⟨hreader _ _ _ hfirst, hmore _ _ _ hothers⟩

section Nested

variable {item : Cursor → Except Fault (Value × Cursor)} {p : Value → Prop}

/-- The items of an array behind the first are as the reader of items gives them, by
induction on their number.
-/
theorem gives_moreItems (hitem : Gives item p) (count : Nat)
    : Gives (moreItems item count) fun list => ∀ v ∈ list, p v := by
  induction count with
  | zero => intro cur list behind h; cases h
  | succ count ih =>
      intro cur list behind h
      simp only [moreItems] at h
      split at h
      · cases h
      · cases h
        exact fun v hv => absurd hv List.not_mem_nil
      · split at h
        · cases h
        · cases h
        · exact forall_of_first_others hitem ih h
      · cases h

/-- So are all items of an array. -/
theorem gives_items (hitem : Gives item p)
    : Gives (items item) fun list => ∀ v ∈ list, p v := by
  intro cur list behind h
  simp only [items] at h
  split at h
  · cases h
  · cases h
    exact fun v hv => absurd hv List.not_mem_nil
  · have hmore : Gives (fun cur => moreItems item (cur.rest.length + 1) cur)
        fun list => ∀ v ∈ list, p v :=
      fun cur => gives_moreItems hitem (cur.rest.length + 1) cur
    exact forall_of_first_others hitem hmore h

/-- The value of an entry is as the reader of items gives it. -/
theorem gives_entry (hitem : Gives item p) : Gives (entry item) fun e => p e.2 := by
  intro cur e behind h
  unfold entry at h
  split at h
  · obtain ⟨⟨key, behindKey⟩, _, h⟩ := bind_eq_ok.mp h
    simp only at h
    split at h
    · cases h
    · obtain ⟨⟨v, behindValue⟩, hvalue, h⟩ := bind_eq_ok.mp h
      cases h
      exact hitem _ _ _ hvalue
    · cases h
  · cases h

/-- The values of the entries behind the first are so too, by induction on their number. -/
theorem gives_moreEntries (hitem : Gives item p) (count : Nat)
    : Gives (moreEntries item count) fun list => ∀ e ∈ list, p e.2 := by
  induction count with
  | zero => intro cur list behind h; cases h
  | succ count ih =>
      intro cur list behind h
      simp only [moreEntries] at h
      split at h
      · cases h
      · cases h
        exact fun e he => absurd he List.not_mem_nil
      · split at h
        · cases h
        · cases h
        · exact forall_of_first_others (gives_entry hitem) ih h
      · cases h

/-- So are those of all entries of an object. -/
theorem gives_entries (hitem : Gives item p)
    : Gives (entries item) fun list => ∀ e ∈ list, p e.2 := by
  intro cur list behind h
  simp only [entries] at h
  split at h
  · cases h
  · cases h
    exact fun e he => absurd he List.not_mem_nil
  · have hmore : Gives (fun cur => moreEntries item (cur.rest.length + 1) cur)
        fun list => ∀ e ∈ list, p e.2 :=
      fun cur => gives_moreEntries hitem (cur.rest.length + 1) cur
    exact forall_of_first_others (gives_entry hitem) hmore h

end Nested

/-- An object of entries in any order is formed if their values are. -/
theorem formed_ofEntries {room : Nat} {entries : List (String × Value)}
    (h : ∀ e ∈ entries, e.2.Formed room)
    : (Value.ofEntries entries).Formed (room + 1) :=
  .obj (Entries.ascending_insertAll Entries.ascending_nil entries) fun e he =>
    (Entries.mem_insertAll he).elim (absurd · List.not_mem_nil) (h e)

-----------------------------------------------------------------------------------------
-- Values and documents
-----------------------------------------------------------------------------------------

/-- Every value is formed for the room that it is read in, by induction on the room. -/
theorem gives_value (room : Nat) : Gives (value room) (Value.Formed room) := by
  intro cur v behind h
  unfold value at h
  simp only at h
  split at h
  · cases h
  · obtain rfl := gives_word _ _ _ _ _ h
    exact .null
  · obtain rfl := gives_word _ _ _ _ _ h
    exact .bool true
  · obtain rfl := gives_word _ _ _ _ _ h
    exact .bool false
  · obtain ⟨⟨s, behindString⟩, _, h⟩ := bind_eq_ok.mp h
    cases h
    exact .str s
  · split at h
    · cases h
    · next room =>
      obtain ⟨⟨list, behindList⟩, hlist, h⟩ := bind_eq_ok.mp h
      cases h
      exact .arr (gives_items (gives_value room) _ _ _ hlist)
  · split at h
    · cases h
    · next room =>
      obtain ⟨⟨list, behindList⟩, hlist, h⟩ := bind_eq_ok.mp h
      cases h
      exact formed_ofEntries (gives_entries (gives_value room) _ _ _ hlist)
  · split at h
    · exact gives_number _ _ _ h room
    · cases h
termination_by room

/-- The value of a document is formed for the depth that is read at most. -/
theorem formed_of_document {text : String} {v : Value} (h : document text = .ok v)
    : v.Formed greatestDepth := by
  obtain ⟨⟨found, behind⟩, hfound, h⟩ := bind_eq_ok.mp h
  simp only at h
  split at h
  · cases h
    exact gives_value greatestDepth _ _ _ hfound
  · cases h

end Json

end DeclaredSettings
