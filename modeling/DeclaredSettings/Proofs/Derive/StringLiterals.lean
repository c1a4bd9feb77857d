import Mathlib.Data.List.TakeDrop
import DeclaredSettings.Derive.StringLiteral

/-! String literals are read back. Whatever a string holds, the value of its literal is the
string itself: a character stands there as it is, by a letter behind a backslash, or by its
number in hexadecimal digits.
-/

namespace DeclaredSettings.Derive

open Json (hexValue?)
open Text

-----------------------------------------------------------------------------------------
-- Characters by their numbers
-----------------------------------------------------------------------------------------

/-- The number that hexadecimal digits stand for. -/
def hexNumber (digits : List Nat) : Nat :=
  digits.foldl (fun n d => n * 16 + d) 0

/-- The digits of a number are read as this number, by induction on how many there are. -/
theorem exists_digits_hexText (n : Nat)
    : ∃ digits,
        hexText n = digits.map Nat.digitChar
        ∧ (∀ d ∈ digits, d < 16)
        ∧ digits ≠ []
        ∧ hexNumber digits = n := by
  induction n using Nat.strongRecOn with
  | ind n ih =>
      rw [hexText, Nat.toDigits_eq_if (by decide)]
      split
      · next hsmall =>
        exact ⟨[n], rfl, by simpa using hsmall, List.cons_ne_nil _ _, Nat.zero_add n⟩
      · next hlarge =>
        obtain ⟨digits, hfront, hdigits, _, hnumber⟩ := ih (n / 16) (by omega)
        refine ⟨digits ++ [n % 16], ?_, ?_, by simp, ?_⟩
        · rw [hexText] at hfront
          rw [hfront, List.map_append, List.map_singleton]
        · intro d hd
          rcases List.mem_append.mp hd with hd | hd
          · exact hdigits d hd
          · rw [List.mem_singleton.mp hd]
            exact Nat.mod_lt _ (by decide)
        · rw [hexNumber] at hnumber
          rw [hexNumber, List.foldl_append, hnumber, List.foldl_cons, List.foldl_nil]
          omega

/-- A digit has its value, and is no underscore. -/
theorem hexValue?_digitChar
    : ∀ d < 16, hexValue? d.digitChar = some d ∧ d.digitChar ≠ '_' := by
  decide

/-- The characters of digits have the values of these. -/
theorem filterMap_hexValue? {digits : List Nat} (h : ∀ d ∈ digits, d < 16)
    : (digits.map Nat.digitChar).filterMap hexValue? = digits := by
  induction digits with
  | nil => rfl
  | cons first rest ih =>
      obtain ⟨hfirst, hrest⟩ := List.forall_mem_cons.mp h
      rw [List.map_cons, List.filterMap_cons_some (hexValue?_digitChar first hfirst).1,
        ih hrest]

/-- A character in braces is read by its number, which has at most six digits. -/
theorem braced?_hexText (c : Char) (rest : List Char)
    : braced? ('\x7b' :: hexText c.toNat ++ '\x7d' :: rest) = some (c.toNat, rest) := by
  obtain ⟨digits, htext, hdigits, hsome, hnumber⟩ := exists_digits_hexText c.toNat
  have hfew : digits.length ≤ 6 := by
    have hlength : (hexText c.toNat).length ≤ 6 := by
      rw [hexText, Nat.length_toDigits_le_iff (by decide) (by decide)]
      have hlimit : c.toNat < 0x110000 := by
        rcases c.valid with hlow | ⟨_, hhigh⟩
        · exact Nat.lt_trans hlow (by decide)
        · exact hhigh
      omega
    simpa [htext] using hlength
  have hrun : (hexText c.toNat ++ '\x7d' :: rest).span
      (fun c => (hexValue? c).isSome || c == '_') = (hexText c.toNat, '\x7d' :: rest) := by
    have hall : ∀ c ∈ digits.map Nat.digitChar,
        ((hexValue? c).isSome || c == '_') = true := by
      intro c hc
      obtain ⟨d, hd, rfl⟩ := List.mem_map.mp hc
      rw [(hexValue?_digitChar d (hdigits d hd)).1]
      rfl
    rw [htext, List.span_eq_takeWhile_dropWhile, List.takeWhile_append_of_pos hall,
      List.dropWhile_append_of_pos hall]
    exact congrArg (·, '\x7d' :: rest) (List.append_nil _)
  have hhead : (hexText c.toNat).head? ≠ some '_' := by
    obtain ⟨first, others, rfl⟩ := List.exists_cons_of_ne_nil hsome
    rw [htext, List.map_cons, List.head?_cons, ne_eq, Option.some.injEq]
    exact (hexValue?_digitChar first (hdigits first List.mem_cons_self)).2
  have hvalues : (hexText c.toNat).filterMap hexValue? = digits := by
    rw [htext, filterMap_hexValue? hdigits]
  rw [hexNumber] at hnumber
  simp only [braced?, List.cons_append, after?, if_true, Option.bind_eq_bind,
    Option.bind_some, hrun, hvalues, hnumber]
  have hvalid : c.toNat.isValidChar := c.valid
  have hchecks : ((hexText c.toNat).head? != some '_' && digits != []
      && decide (digits.length ≤ 6) && decide c.toNat.isValidChar) = true := by
    simp only [Bool.and_eq_true, bne_iff_ne, decide_eq_true_eq]
    exact ⟨⟨⟨hhead, hsome⟩, hfew⟩, hvalid⟩
  rw [if_pos hchecks]
  rfl

-----------------------------------------------------------------------------------------
-- Strings
-----------------------------------------------------------------------------------------

/-- An escape is read as the character that it stands for. -/
theorem cooked?_backslash {c mark : Char} {rest behind : List Char} (count : Nat)
    (hmark : mark ≠ '\n' ∧ mark ≠ '\r') (h : escaped? (mark :: rest) = some (c, behind))
    : cooked? (count + 1) ('\\' :: mark :: rest) = (cooked? count behind).map (c :: ·) := by
  rw [cooked?]
  · rw [h]
    cases hbehind : cooked? count behind <;> simp [hbehind]
  · simpa using hmark.1
  · simp [hmark.2]

/-- What is written for a character is read as this character. -/
theorem cooked?_shownChar {c : Char} (h : c ≠ '\x00') (count : Nat) (rest : List Char)
    : cooked? (count + 1) (shownChar c ++ rest) = (cooked? count rest).map (c :: ·) := by
  unfold shownChar
  split
  · exact absurd rfl h
  · exact cooked?_backslash count (by decide) rfl
  · exact cooked?_backslash count (by decide) rfl
  · exact cooked?_backslash count (by decide) rfl
  · exact cooked?_backslash count (by decide) rfl
  · exact cooked?_backslash count (by decide) rfl
  · next _ _ hreturn _ hquote hslash =>
    split
    · have hnumber := braced?_hexText c rest
      have hescape : escaped? ('u' :: '\x7b' :: hexText c.toNat ++ '\x7d' :: rest)
          = some (c, rest) := by
        simp only [List.cons_append, escaped?] at hnumber ⊢
        rw [hnumber, Option.map_some, Char.ofNat_toNat]
      simpa using cooked?_backslash count (by decide) hescape
    · -- what stands there as it is begins neither an escape nor an end of the line
      rw [List.singleton_append, cooked?]
      · exact hquote
      · exact fun _ heq => absurd heq hslash
      · exact fun _ heq => absurd heq hslash
      · exact hslash
      · exact fun _ heq => absurd heq hreturn

/-- The characters inside a literal are read as those of the string, by induction on these.
-/
theorem cooked?_escapedChars {cs : List Char} {count : Nat} (h : cs.length < count)
    : cooked? count (Code.escapedChars cs ++ ['"']) = some cs := by
  induction cs generalizing count with
  | nil =>
      obtain ⟨count, rfl⟩ := Nat.exists_eq_add_one_of_ne_zero (Nat.ne_zero_of_lt h)
      rfl
  | cons c cs ih =>
      obtain ⟨count, rfl⟩ := Nat.exists_eq_add_one_of_ne_zero (Nat.ne_zero_of_lt h)
      have hrest := ih (Nat.lt_of_succ_lt_succ h)
      by_cases hzero : c = '\x00'
      · subst hzero
        rw [Code.escapedChars]
        split
        · exact (cooked?_backslash count (by decide) rfl).trans (congrArg (Option.map _) hrest)
        · exact (cooked?_backslash count (by decide) rfl).trans (congrArg (Option.map _) hrest)
      · rw [Code.escapedChars, List.append_assoc, cooked?_shownChar hzero, hrest]
        · rfl
        · exact hzero

theorem shownChar_ne_nil (c : Char) : shownChar c ≠ [] := by
  unfold shownChar
  split
  case h_7 => split <;> exact List.cons_ne_nil _ _
  all_goals exact List.cons_ne_nil _ _

/-- Something is written for each character. -/
theorem exists_escapedChars_cons (c : Char) (cs : List Char)
    : ∃ front,
        front ≠ [] ∧ Code.escapedChars (c :: cs) = front ++ Code.escapedChars cs := by
  by_cases hzero : c = '\x00'
  · subst hzero
    refine ⟨_, ?_, rfl⟩
    split <;> exact List.cons_ne_nil _ _
  · exact ⟨shownChar c, shownChar_ne_nil c, by rw [Code.escapedChars]; exact hzero⟩

theorem length_le_escapedChars (cs : List Char)
    : cs.length ≤ (Code.escapedChars cs).length := by
  induction cs with
  | nil => exact Nat.le_refl 0
  | cons c cs ih =>
      obtain ⟨front, hsome, hfront⟩ := exists_escapedChars_cons c cs
      have hlength := List.length_pos_iff.mpr hsome
      rw [hfront, List.length_append, List.length_cons]
      omega

/-- The value of the literal of a string is the string. -/
theorem stringValue?_stringChars (s : String)
    : stringValue? (Code.stringChars s.toList) = some s := by
  have hcount : s.toList.length < (Code.escapedChars s.toList ++ ['"']).length + 1 := by
    have := length_le_escapedChars s.toList
    rw [List.length_append]
    omega
  simp only [Code.stringChars, List.cons_append, stringValue?, cooked?_escapedChars hcount,
    Option.map_some, String.ofList_toList]

end DeclaredSettings.Derive
