import DeclaredSettings.Name

/-! Symbol spellings reach every canonical name. A colon in front of a text without white
space at its ends is all that canonicalising takes off again, so these texts are exactly
the canonical spellings; those of them that have no colon in front stand for themselves,
and all others become shorter when they are made canonical once more.
-/

namespace DeclaredSettings

open Text

/-- A trimmed text is trimmed in reverse too, with its ends exchanged. -/
theorem trimmed_reverse {cs : List Char} (h : Trimmed cs) : Trimmed cs.reverse := by
  refine ⟨fun c hc => h.2 c ?_, fun c hc => h.1 c ?_⟩
  · rwa [List.head?_reverse] at hc
  · rwa [List.getLast?_reverse] at hc

/-- Trimming the end of a trimmed text leaves it as it is, by trimming its reverse. -/
theorem trimEnd_of_trimmed {cs : List Char} (h : Trimmed cs) : trimEnd cs = cs := by
  have hstart : trimStart cs.reverse = cs.reverse :=
    trimStart_of_trimmed (trimmed_reverse h)
  rw [trimStart] at hstart
  rw [trimEnd, hstart, List.reverse_reverse]

theorem trim_of_trimmed {cs : List Char} (h : Trimmed cs) : trim cs = cs := by
  rw [trim, trimStart_of_trimmed h, trimEnd_of_trimmed h]

/-- A colon in front of a trimmed text keeps it trimmed, since a colon is no white space. -/
theorem trimmed_colon {cs : List Char} (h : Trimmed cs) : Trimmed (':' :: cs) := by
  have hcolon : isWhiteSpace ':' = false := by decide
  refine ⟨fun c hc => ?_, fun c hc => ?_⟩
  · obtain rfl : ':' = c := by simpa using hc
    exact hcolon
  · rw [List.getLast?_cons, Option.mem_def, Option.some.injEq] at hc
    cases hlast : cs.getLast? with
    | none =>
        obtain rfl : ':' = c := by simpa [hlast] using hc
        exact hcolon
    | some d =>
        obtain rfl : d = c := by simpa [hlast] using hc
        exact h.2 d hlast

/-- The symbol spelling of a trimmed text stands for that text. -/
theorem canonicalChars_colon {cs : List Char} (h : Trimmed cs)
    : canonicalChars (':' :: cs) = cs := by
  rw [canonicalChars, trim_of_trimmed (trimmed_colon h)]
  exact trimStart_of_trimmed h

/-- The symbol spelling of a tidy name stands for that name, by its characters. -/
theorem canonical_symbol {name : String} (h : IsTidy name)
    : canonical (":" ++ name) = name := by
  have hchars : (":" ++ name).toList = ':' :: name.toList := by
    simp [String.toList_append]
  rw [canonical, hchars, canonicalChars_colon h, String.ofList_toList]

/-- The canonical spellings are exactly the texts without white space at their ends:
each of these is what its symbol spelling stands for.
-/
theorem exists_canonical_iff (name : String)
    : (∃ spelling, canonical spelling = name) ↔ IsTidy name := by
  constructor
  · rintro ⟨spelling, rfl⟩
    exact isTidy_canonical spelling
  · intro h
    exact ⟨":" ++ name, canonical_symbol h⟩

-----------------------------------------------------------------------------------------
-- Names that stand for themselves
-----------------------------------------------------------------------------------------

/-- Whether a text has a colon in front, as symbols have. -/
def IsSymbol (text : String) : Prop :=
  text.toList.head? = some ':'

instance (text : String) : Decidable (IsSymbol text) :=
  inferInstanceAs (Decidable (_ = _))

/-- A trimmed text without a colon in front is canonical as it is. -/
theorem canonicalChars_of_trimmed {cs : List Char} (h : Trimmed cs)
    (hplain : cs.head? ≠ some ':')
    : canonicalChars cs = cs := by
  rw [canonicalChars, trim_of_trimmed h]
  split
  · exact absurd rfl hplain
  · exact trimStart_of_trimmed h

/-- A canonical spelling of characters with a colon in front is shorter, since trimming
adds nothing and the colon goes.
-/
theorem length_canonicalChars_lt {cs : List Char} (h : cs.head? = some ':')
    : (canonicalChars cs).length < cs.length := by
  obtain ⟨rest, rfl⟩ : ∃ rest, cs = ':' :: rest := by
    cases cs with
    | nil => exact nomatch h
    | cons c rest => exact ⟨rest, by rw [Option.some.inj h]⟩
  by_cases htrimmed : Trimmed (':' :: rest)
  · rw [canonicalChars, trim_of_trimmed htrimmed]
    exact Nat.lt_succ_of_le (trimStart_suffix rest).length_le
  · have hstretch := canonicalChars_infix (':' :: rest)
    refine Nat.lt_of_le_of_ne hstretch.length_le fun hlength => htrimmed ?_
    rw [← hstretch.eq_of_length hlength]
    exact trimmed_canonicalChars _

/-- A name stands for itself if and only if it is tidy and no symbol. -/
theorem canonical_eq_self_iff (name : String)
    : canonical name = name ↔ IsTidy name ∧ ¬ IsSymbol name := by
  constructor
  · intro h
    refine ⟨h ▸ isTidy_canonical name, fun hsymbol => ?_⟩
    have hlt := length_canonicalChars_lt hsymbol
    have hchars : canonicalChars name.toList = name.toList := by
      simpa only [canonical, String.toList_ofList] using congrArg String.toList h
    rw [hchars] at hlt
    exact Nat.lt_irrefl _ hlt
  · rintro ⟨htidy, hplain⟩
    rw [canonical, canonicalChars_of_trimmed htidy hplain, String.ofList_toList]

/-- A spelling that is kept because canonicalising would not shorten it is the name itself,
so it makes no difference whether a name is given as an owned text.
-/
theorem Name.ofOwned_eq_of (spelling : String) : Name.ofOwned spelling = Name.of spelling := by
  unfold ofOwned
  split
  · next hsize => exact Name.ext (canonical_eq_of_size_eq hsize).symm
  · rfl

-----------------------------------------------------------------------------------------
-- Symbols become shorter
-----------------------------------------------------------------------------------------

/-- The number of colons in a text. -/
def colons (text : String) : Nat :=
  text.toList.count ':'

theorem length_canonical_lt {name : String} (h : IsSymbol name)
    : (canonical name).length < name.length := by
  rw [← String.length_toList, ← String.length_toList, canonical, String.toList_ofList]
  exact length_canonicalChars_lt h

/-- The same in bytes: a canonical spelling is a stretch of the name, and only the name
itself is one with as many bytes.
-/
theorem utf8ByteSize_canonical_lt {name : String} (h : IsSymbol name)
    : (canonical name).utf8ByteSize < name.utf8ByteSize := by
  have hne : canonical name ≠ name := fun heq =>
    ((canonical_eq_self_iff name).mp heq).2 h
  have hle : (canonical name).utf8ByteSize ≤ name.utf8ByteSize := by
    obtain ⟨front, back, hname⟩ := exists_eq_append_canonical name
    have hsize := congrArg String.utf8ByteSize hname
    simp only [String.utf8ByteSize_append] at hsize
    omega
  exact Nat.lt_of_le_of_ne hle fun heq => hne (canonical_eq_of_size_eq heq)

/-- Canonicalising takes the colon in front of a symbol away and puts none in. -/
theorem colons_canonical_lt {name : String} (htidy : IsTidy name) (h : IsSymbol name)
    : colons (canonical name) < colons name := by
  obtain ⟨rest, hchars⟩ : ∃ rest, name.toList = ':' :: rest :=
    List.head?_eq_some_iff.mp h
  have htrimmed : Trimmed (':' :: rest) := hchars ▸ htidy
  have hcanonical : (canonical name).toList = trimStart rest := by
    rw [canonical, String.toList_ofList, hchars, canonicalChars, trim_of_trimmed htrimmed]
    rfl
  calc colons (canonical name)
    _ = (trimStart rest).count ':' := by rw [colons, hcanonical]
    _ ≤ rest.count ':' := (trimStart_suffix rest).sublist.count_le ':'
    _ < (':' :: rest).count ':' := by rw [List.count_cons_self]; exact Nat.lt_succ_self _
    _ = colons name := by rw [colons, hchars]

end DeclaredSettings
