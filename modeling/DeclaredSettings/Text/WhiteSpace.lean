/-!
White space as Unicode's White_Space property has it, and trimming by that property.
Trimming is stated on lists of characters, where a cut is a `dropWhile`.
-/

namespace DeclaredSettings.Text

/-- The characters with the property White_Space: the five controls from tab to carriage
return, the blanks of the Latin blocks, and the typographic blanks and separators.
-/
def isWhiteSpace (c : Char) : Bool :=
  let n := c.toNat
  (0x9 ≤ n && n ≤ 0xD) || n == 0x20 || n == 0x85 || n == 0xA0 || n == 0x1680
    || (0x2000 ≤ n && n ≤ 0x200A) || n == 0x2028 || n == 0x2029 || n == 0x202F
    || n == 0x205F || n == 0x3000

/-- The characters from the first that is no white space on. -/
def trimStart (cs : List Char) : List Char :=
  cs.dropWhile isWhiteSpace

/-- The characters up to the last that is no white space. -/
def trimEnd (cs : List Char) : List Char :=
  (cs.reverse.dropWhile isWhiteSpace).reverse

/-- The characters without the white space at either end. -/
def trim (cs : List Char) : List Char :=
  trimEnd (trimStart cs)

/-- No white space stands at either end. -/
def Trimmed (cs : List Char) : Prop :=
  (∀ c ∈ cs.head?, isWhiteSpace c = false) ∧ ∀ c ∈ cs.getLast?, isWhiteSpace c = false

instance (cs : List Char) : Decidable (Trimmed cs) :=
  inferInstanceAs (Decidable (_ ∧ _))

/-- The empty text has no ends. -/
theorem trimmed_nil : Trimmed [] :=
  ⟨nofun, nofun⟩

/-- After a cut at the start no white space is in front, by the law of `dropWhile`. -/
theorem head?_trimStart {cs : List Char} {c : Char} (h : c ∈ (trimStart cs).head?)
    : isWhiteSpace c = false := by
  have := List.head?_dropWhile_not isWhiteSpace cs
  simp only [trimStart] at h
  rw [h] at this
  simpa using this

/-- A cut at the start leaves an end of the text. -/
theorem trimStart_suffix (cs : List Char) : trimStart cs <:+ cs :=
  List.dropWhile_suffix isWhiteSpace

/-- A cut at the end leaves a start of the text. -/
theorem trimEnd_isPrefix (cs : List Char) : trimEnd cs <+: cs := by
  have h : cs.reverse.dropWhile isWhiteSpace <:+ cs.reverse :=
    List.dropWhile_suffix isWhiteSpace
  simpa [trimEnd] using List.reverse_prefix.mpr h

/-- A cut at the start keeps the last character that is left, since it drops from the
front only.
-/
theorem getLast?_trimStart {cs : List Char} {c : Char} (h : c ∈ (trimStart cs).getLast?)
    : c ∈ cs.getLast? := by
  obtain ⟨front, hfront⟩ := trimStart_suffix cs
  simp only [Option.mem_def] at h ⊢
  rw [← hfront, List.getLast?_append, h]
  rfl

/-- After a cut at the end no white space is last, by the law of `dropWhile` on the
reversed text.
-/
theorem getLast?_trimEnd {cs : List Char} {c : Char} (h : c ∈ (trimEnd cs).getLast?)
    : isWhiteSpace c = false := by
  have := List.head?_dropWhile_not isWhiteSpace cs.reverse
  simp only [trimEnd, List.getLast?_reverse] at h
  rw [h] at this
  simpa using this

/-- A cut at the end keeps the first character that is left. -/
theorem head?_trimEnd {cs : List Char} {c : Char} (h : c ∈ (trimEnd cs).head?)
    : c ∈ cs.head? := by
  obtain ⟨back, hback⟩ := trimEnd_isPrefix cs
  simp only [Option.mem_def] at h ⊢
  rw [← hback, List.head?_append, h]
  rfl

/-- Trimming leaves no white space at either end. -/
theorem trimmed_trim (cs : List Char) : Trimmed (trim cs) :=
  ⟨fun _ h => head?_trimStart (head?_trimEnd h), fun _ h => getLast?_trimEnd h⟩

end DeclaredSettings.Text
