import DeclaredSettings.Proofs.Name.SymbolSpelling
import DeclaredSettings.Text.Identifier

/-! Characters of identifiers stand apart from white space and from the signs of source
text, so a text of such characters alone is its own canonical spelling.
-/

namespace DeclaredSettings

namespace Text

-----------------------------------------------------------------------------------------
-- Classes that lie apart
-----------------------------------------------------------------------------------------

/-- Whether two ranges have no number in common. -/
def apart (a b : Nat × Nat) : Bool :=
  Nat.blt a.2 b.1 || Nat.blt b.2 a.1

/-- A character in one range is in no range apart from it. -/
theorem not_inRanges_of_apart {ranges : Array (Nat × Nat)} {range : Nat × Nat}
    (h : ranges.toList.all (apart · range) = true) {c : Char}
    (hc : range.1 ≤ c.toNat ∧ c.toNat ≤ range.2)
    : inRanges ranges c = false := by
  rw [inRanges, ← Array.any_toList, List.any_eq_false]
  intro r hr
  have hapart := List.all_eq_true.mp h r hr
  simp only [apart, Bool.or_eq_true, Nat.blt_eq] at hapart
  simp only [Bool.and_eq_true, decide_eq_true_eq]
  omega

/-- The ranges of the characters with the property White_Space. -/
def whiteSpaceRanges : List (Nat × Nat) :=
  [(0x9, 0xD), (0x20, 0x20), (0x85, 0x85), (0xA0, 0xA0), (0x1680, 0x1680),
    (0x2000, 0x200A), (0x2028, 0x2029), (0x202F, 0x202F), (0x205F, 0x205F),
    (0x3000, 0x3000)]

/-- White space lies in these ranges. -/
theorem exists_range_of_isWhiteSpace {c : Char} (h : isWhiteSpace c = true)
    : ∃ range ∈ whiteSpaceRanges, range.1 ≤ c.toNat ∧ c.toNat ≤ range.2 := by
  simp only [isWhiteSpace, Bool.or_eq_true, Bool.and_eq_true, decide_eq_true_eq,
    beq_iff_eq] at h
  simp only [whiteSpaceRanges, List.mem_cons, List.not_mem_nil, or_false,
    exists_eq_or_imp, exists_eq_left]
  omega

/-- The marks of writing direction and of byte order, which stand between tokens too. -/
def markRanges : List (Nat × Nat) :=
  [(0x200E, 0x200F), (0xFEFF, 0xFEFF)]

/-- The tables of identifier characters lie beyond ASCII, and apart from all that stands
between tokens.
-/
theorem identifierRanges_apart
    : ∀ range ∈ (0, 0x7F) :: (markRanges ++ whiteSpaceRanges),
        startRanges.toList.all (apart · range) = true
        ∧ continueRanges.toList.all (apart · range) = true := by
  decide +kernel

/-- An ASCII character of identifiers is a letter, an underscore or a digit. -/
theorem isIdentifierContinue_ascii {c : Char} (h : c.toNat < 0x80)
    : isIdentifierContinue c = (c.isAlpha || c == '_' || c.isDigit) := by
  have htable := (identifierRanges_apart (0, 0x7F) List.mem_cons_self).2
  have hnone : inRanges continueRanges c = false :=
    not_inRanges_of_apart htable ⟨Nat.zero_le _, Nat.le_of_lt_succ h⟩
  simp only [isIdentifierContinue, isIdentifierStart, h, hnone, if_true, Bool.or_false]

/-- A character beyond ASCII in a range apart from the tables is none of identifiers. -/
theorem not_isIdentifierContinue {c : Char} {range : Nat × Nat}
    (hrange : range ∈ markRanges ++ whiteSpaceRanges)
    (hc : range.1 ≤ c.toNat ∧ c.toNat ≤ range.2) (hascii : ¬ c.toNat < 0x80)
    : isIdentifierContinue c = false := by
  obtain ⟨hstart, hcontinue⟩ :=
    identifierRanges_apart range (List.mem_cons_of_mem _ hrange)
  have hdigit : c.isDigit = false := by
    rw [← Bool.not_eq_true, Char.isDigit_iff_toNat]
    have hnine : '9'.toNat = 57 := rfl
    omega
  simp [isIdentifierContinue, isIdentifierStart, hascii, hdigit,
    not_inRanges_of_apart hstart hc, not_inRanges_of_apart hcontinue hc]

/-- The blanks of ASCII are neither letters nor digits nor the underscore. -/
theorem isIdentifierContinue_asciiBlank
    : ∀ n ∈ [0x9, 0xA, 0xB, 0xC, 0xD, 0x20],
        isIdentifierContinue (Char.ofNat n) = false := by
  intro n hn
  have hascii : (Char.ofNat n).toNat < 0x80 := by revert n; decide
  rw [isIdentifierContinue_ascii hascii]
  revert n
  decide

/-- A character of identifiers is no white space: the tables lie apart from it, and so do
the ASCII characters of identifiers.
-/
theorem isWhiteSpace_of_isIdentifierContinue {c : Char}
    (h : isIdentifierContinue c = true)
    : isWhiteSpace c = false := by
  rw [← Bool.not_eq_true]
  intro hspace
  obtain ⟨range, hrange, hc⟩ := exists_range_of_isWhiteSpace hspace
  by_cases hascii : c.toNat < 0x80
  · have hblank : c.toNat ∈ [0x9, 0xA, 0xB, 0xC, 0xD, 0x20] := by
      simp only [isWhiteSpace, Bool.or_eq_true, Bool.and_eq_true, decide_eq_true_eq,
        beq_iff_eq] at hspace
      simp only [List.mem_cons, List.not_mem_nil, or_false]
      omega
    have hnot := isIdentifierContinue_asciiBlank c.toNat hblank
    rw [Char.ofNat_toNat, h] at hnot
    exact nomatch hnot
  · have hnot := not_isIdentifierContinue (List.mem_append_right _ hrange) hc hascii
    rw [h] at hnot
    exact nomatch hnot

theorem ne_of_isIdentifierContinue {c other : Char} (h : isIdentifierContinue c = true)
    (hother : isIdentifierContinue other = false)
    : c ≠ other := by
  rintro rfl
  exact Bool.false_ne_true (hother.symm.trans h)

/-- An identifier consists of characters of identifiers. -/
theorem isIdentifierContinue_of_mem {cs : List Char} (h : isIdentifier cs = true)
    : ∀ c ∈ cs, isIdentifierContinue c = true := by
  cases cs with
  | nil => nofun
  | cons first rest =>
      simp only [isIdentifier, Bool.and_eq_true, List.all_eq_true] at h
      refine List.forall_mem_cons.mpr ⟨?_, h.2⟩
      simp [isIdentifierContinue, h.1]

end Text

/-- A text of characters of identifiers is its own canonical spelling, since neither white
space nor a colon is among them.
-/
theorem canonical_of_identifierChars {name : String}
    (h : ∀ c ∈ name.toList, Text.isIdentifierContinue c = true)
    : canonical name = name := by
  rw [canonical_eq_self_iff]
  refine ⟨⟨fun c hc => ?_, fun c hc => ?_⟩, fun hsymbol => ?_⟩
  · exact Text.isWhiteSpace_of_isIdentifierContinue (h c (List.mem_of_mem_head? hc))
  · exact Text.isWhiteSpace_of_isIdentifierContinue (h c (List.mem_of_mem_getLast? hc))
  · have hcolon : Text.isIdentifierContinue ':' = false := by
      rw [Text.isIdentifierContinue_ascii (by decide)]
      rfl
    exact Text.ne_of_isIdentifierContinue (h ':' (List.mem_of_mem_head? hsymbol)) hcolon rfl

end DeclaredSettings
