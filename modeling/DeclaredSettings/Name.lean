import DeclaredSettings.Text.WhiteSpace

/-!
Attribute names and their canonical spelling. A name may be written plainly, padded with
white space, or as a symbol with a colon in front; all of these address one attribute.
-/

namespace DeclaredSettings

open Text

/-- The canonical spelling on characters: trimmed, without one leading colon and without
the white space after it.
-/
def canonicalChars (cs : List Char) : List Char :=
  match trim cs with
  | ':' :: rest => trimStart rest
  | trimmed => trimStart trimmed

/-- The canonical spelling of a name. Only one colon is dropped, so the result of `::a` is
`:a`, which is another name than `a`.
-/
def canonical (name : String) : String :=
  String.ofList (canonicalChars name.toList)

/-- Whether a text can be a canonical spelling: no white space stands at either end. -/
def IsTidy (text : String) : Prop :=
  Trimmed text.toList

instance (text : String) : Decidable (IsTidy text) :=
  inferInstanceAs (Decidable (Trimmed _))

/-- Dropping the first character of a trimmed text and the white space after it leaves a
trimmed text.
-/
theorem trimmed_trimStart_tail {c : Char} {rest : List Char} (h : Trimmed (c :: rest))
    : Trimmed (trimStart rest) := by
  refine ⟨fun _ hd => head?_trimStart hd, fun d hd => h.2 d ?_⟩
  have hlast := getLast?_trimStart hd
  simp only [Option.mem_def] at hlast ⊢
  rw [List.getLast?_cons, hlast]
  rfl

/-- Trimming the start of a trimmed text leaves it as it is. -/
theorem trimStart_of_trimmed {cs : List Char} (h : Trimmed cs) : trimStart cs = cs := by
  cases cs with
  | nil => rfl
  | cons c rest => simp [trimStart, h.1 c (by simp)]

/-- A canonical spelling has no white space at either end, by cases on the colon. -/
theorem trimmed_canonicalChars (cs : List Char) : Trimmed (canonicalChars cs) := by
  unfold canonicalChars
  have htrim := trimmed_trim cs
  split
  · next rest heq => exact trimmed_trimStart_tail (heq ▸ htrim)
  · rw [trimStart_of_trimmed htrim]
    exact htrim

/-- A canonical spelling is tidy. -/
theorem isTidy_canonical (name : String) : IsTidy (canonical name) := by
  simpa only [IsTidy, canonical, String.toList_ofList] using
    trimmed_canonicalChars name.toList

/-- A canonical spelling is a stretch of the name, since every step cuts at an end. -/
theorem canonicalChars_infix (cs : List Char) : canonicalChars cs <:+: cs := by
  have htrim : trim cs <:+: cs :=
    (trimEnd_isPrefix _).isInfix.trans (trimStart_suffix cs).isInfix
  unfold canonicalChars
  split
  · next rest heq =>
    have hrest : rest <:+: trim cs := heq ▸ (List.suffix_cons ':' rest).isInfix
    exact (trimStart_suffix rest).isInfix.trans (hrest.trans htrim)
  · exact (trimStart_suffix _).isInfix.trans htrim

/-- A name is its canonical spelling with something in front and something behind. -/
theorem exists_eq_append_canonical (name : String)
    : ∃ front back, name = front ++ canonical name ++ back := by
  obtain ⟨front, back, hcut⟩ := canonicalChars_infix name.toList
  refine ⟨String.ofList front, String.ofList back, ?_⟩
  rw [canonical, ← String.ofList_append, ← String.ofList_append, hcut, String.ofList_toList]

/-- A canonical spelling as long as the name is the name, since what was cut off has no
bytes.
-/
theorem canonical_eq_of_size_eq {name : String}
    (h : (canonical name).utf8ByteSize = name.utf8ByteSize)
    : canonical name = name := by
  obtain ⟨front, back, hname⟩ := exists_eq_append_canonical name
  have hsize := congrArg String.utf8ByteSize hname
  simp only [String.utf8ByteSize_append, h] at hsize
  have hfront : front = "" := String.utf8ByteSize_eq_zero_iff.mp (by omega)
  have hback : back = "" := String.utf8ByteSize_eq_zero_iff.mp (by omega)
  rw [hfront, hback, String.empty_append, String.append_empty] at hname
  exact hname.symm

/-- An attribute name that owns its canonical spelling. -/
structure Name where
  /-- The canonical spelling. -/
  text : String
  tidy : IsTidy text
  deriving DecidableEq, Repr

namespace Name

/-- Names of one text are one name. -/
@[ext]
theorem ext {name other : Name} (h : name.text = other.text) : name = other := by
  obtain ⟨text, tidy⟩ := name
  obtain ⟨otherText, otherTidy⟩ := other
  obtain rfl : text = otherText := h
  rfl

/-- The name that a spelling stands for. -/
def of (spelling : String) : Name :=
  ⟨canonical spelling, isTidy_canonical spelling⟩

/-- A spelling may be given where a name is taken. -/
instance : Coe String Name :=
  ⟨of⟩

/-- Spellings may be given where names are taken. -/
instance : Coe (List String) (List Name) :=
  ⟨List.map of⟩

/-- The name that a spelling stands for, keeping the spelling itself when canonicalising
would not shorten it.
-/
def ofOwned (spelling : String) : Name :=
  if h : (canonical spelling).utf8ByteSize = spelling.utf8ByteSize then
    ⟨spelling, canonical_eq_of_size_eq h ▸ isTidy_canonical spelling⟩
  else of spelling

/-- Whether a spelling stands for this name. -/
def agrees (name : Name) (spelling : String) : Bool :=
  name.text == canonical spelling

/-- Whether a text is this name as it is stored, letter for letter. -/
def isStoredAs (name : Name) (text : String) : Bool :=
  name.text == text

end Name

end DeclaredSettings
