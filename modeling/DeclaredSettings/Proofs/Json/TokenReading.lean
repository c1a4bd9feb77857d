import DeclaredSettings.Json.Document
import DeclaredSettings.Value.Text

/-! Strings and whole numbers are read back from their text. Each reader is given the text of
one token in front of any other text, and stands behind the token afterwards; behind a number
no character may follow that would belong to it.
-/

namespace DeclaredSettings

open Text

-----------------------------------------------------------------------------------------
-- Cursors
-----------------------------------------------------------------------------------------

theorem Text.Position.pastAll_append (p : Position) (front back : List Char)
    : p.pastAll (front ++ back) = (p.pastAll front).pastAll back :=
  List.foldl_append

theorem Text.Position.pastAll_cons (p : Position) (c : Char) (cs : List Char)
    : p.pastAll (c :: cs) = (p.past c).pastAll cs :=
  rfl

theorem Text.Cursor.skip_eq_self {belongs : Char → Bool} {rest : List Char} {p : Position}
    (h : ∀ c ∈ rest.head?, belongs c = false)
    : (Cursor.mk rest p).skip belongs = ⟨rest, p⟩ := by
  cases rest with
  | nil => rfl
  | cons c rest =>
      have hc : belongs c = false := h c rfl
      simp only [Cursor.skip, Cursor.run, List.takeWhile_cons, List.dropWhile_cons, hc]
      rfl

/-- A run of a class ends where a character of another class stands. -/
theorem Text.Cursor.run_append {belongs : Char → Bool} {taken rest : List Char}
    {p : Position} (htaken : ∀ c ∈ taken, belongs c = true)
    (hrest : ∀ c ∈ rest.head?, belongs c = false)
    : (Cursor.mk (taken ++ rest) p).run belongs = (taken, ⟨rest, p.pastAll taken⟩) := by
  have htake : (taken ++ rest).takeWhile belongs = taken := by
    cases rest with
    | nil => rw [List.takeWhile_append_of_pos htaken]; simp
    | cons c rest =>
        rw [List.takeWhile_append_of_pos htaken]
        simp [hrest c rfl]
  have hdrop : (taken ++ rest).dropWhile belongs = rest := by
    cases rest with
    | nil => rw [List.dropWhile_append_of_pos htaken]; simp
    | cons c rest =>
        rw [List.dropWhile_append_of_pos htaken]
        simp [hrest c rfl]
  simp only [Cursor.run, htake, hdrop]

namespace Json

/-- A reader takes these characters, in front of others, for a result, and stands behind
them then.
-/
def Reads {α : Type} (reader : Cursor → Except Fault (α × Cursor)) (cs : List Char) (a : α)
    (rest : List Char) : Prop :=
  ∀ p, reader ⟨cs ++ rest, p⟩ = .ok (a, ⟨rest, p.pastAll cs⟩)

-----------------------------------------------------------------------------------------
-- Strings
-----------------------------------------------------------------------------------------

/-- The digits of a control character are read as its number. -/
theorem hexFour?_control
    : ∀ n < 0x20,
        hexFour? '0' '0' (Value.hexDigit (n / 16)) (Value.hexDigit (n % 16)) = some n := by
  decide

theorem utf8Size_hexDigit : ∀ n < 16, (Value.hexDigit n).utf8Size = 1 := by
  decide

/-- Four hexadecimal digits are read as the unit that they stand for. -/
theorem reads_unit {a b c d : Char} {n : Nat} (h : hexFour? a b c d = some n)
    (hsize : 4 ≤ a.utf8Size + b.utf8Size + c.utf8Size + d.utf8Size) (rest : List Char)
    : Reads unit [a, b, c, d] n rest := by
  intro p
  have hbytes : ¬ 0 + a.utf8Size + b.utf8Size + c.utf8Size + d.utf8Size < 4 := by omega
  simp only [unit, List.cons_append, List.nil_append, List.take_succ_cons, List.take_zero,
    List.foldl_cons, List.foldl_nil, hbytes, if_false, h]

/-- The hexadecimal escape of a control character is read as this character. -/
theorem reads_hexEscape {c : Char} (h : c.toNat < 0x20) (rest : List Char)
    : Reads hexEscape
        ['0', '0', Value.hexDigit (c.toNat / 16), Value.hexDigit (c.toNat % 16)] c rest := by
  intro p
  have hhigh := utf8Size_hexDigit (c.toNat / 16) (by omega)
  have hlow := utf8Size_hexDigit (c.toNat % 16) (by omega)
  have hsize : 4 ≤ '0'.utf8Size + '0'.utf8Size
      + (Value.hexDigit (c.toNat / 16)).utf8Size
      + (Value.hexDigit (c.toNat % 16)).utf8Size := by
    rw [hhigh, hlow]
    decide
  have hunit := reads_unit (hexFour?_control c.toNat h) hsize rest p
  have hlone : ¬ (0xDC00 ≤ c.toNat && c.toNat < 0xE000) := by simp; omega
  have hpair : ¬ (0xD800 ≤ c.toNat && c.toNat < 0xDC00) := by simp; omega
  simp only [hexEscape, hunit, bind, Except.bind, hlone, hpair, Char.ofNat_toNat]
  rfl

/-- A character that needs no escape is read as it is. -/
theorem stringStep_plain {c : Char} (hquote : c ≠ '"') (hbackslash : c ≠ '\\')
    (hplain : ¬ c.toNat < 0x20) (rest : List Char) (p : Position)
    : stringStep ⟨c :: rest, p⟩ = .ok (some c, ⟨rest, p.past c⟩) := by
  unfold stringStep
  split
  · next heq => exact nomatch heq
  · next heq => exact absurd (List.cons.inj heq).1 hquote
  · next heq => exact absurd (List.cons.inj heq).1 hbackslash
  · next first _ _ _ heq =>
    obtain ⟨rfl, rfl⟩ := List.cons.inj heq
    rw [if_neg hplain]
    rfl

/-- The escaped form of a character is read as this character, by cases on which form it is.
-/
theorem reads_escaped (c : Char) (rest : List Char)
    : Reads stringStep (Value.escaped c) (some c) rest := by
  intro p
  unfold Value.escaped
  split
  -- the short escapes
  all_goals try rfl
  next hquote hbackslash _ _ _ _ _ =>
  split
  · next hcontrol =>
    have hescape := reads_hexEscape hcontrol rest ((p.past '\\').past 'u')
    simp only [List.cons_append, List.nil_append] at hescape
    simp only [List.cons_append, List.nil_append, stringStep, Cursor.advance, escape, hescape]
    rfl
  · next hplain => exact stringStep_plain hquote hbackslash hplain rest p

/-- The characters of a quoted string are read up to its closing quote, by induction on
them.
-/
theorem reads_stringChars {cs : List Char} {count : Nat} (h : cs.length < count)
    (rest : List Char)
    : Reads (stringChars count) (cs.flatMap Value.escaped ++ ['"']) cs rest := by
  intro p
  induction cs generalizing count p with
  | nil =>
      obtain ⟨count, rfl⟩ := Nat.exists_eq_add_one_of_ne_zero (Nat.ne_zero_of_lt h)
      rfl
  | cons c cs ih =>
      obtain ⟨count, rfl⟩ := Nat.exists_eq_add_one_of_ne_zero (Nat.ne_zero_of_lt h)
      have hfirst := reads_escaped c (cs.flatMap Value.escaped ++ ['"'] ++ rest) p
      have hcount : cs.length < count := Nat.lt_of_succ_lt_succ h
      have hothers := ih hcount (p.pastAll (Value.escaped c))
      simp only [List.flatMap_cons, List.append_assoc] at hfirst hothers ⊢
      simp only [stringChars, hfirst, bind, Except.bind, hothers, Position.pastAll_append]

theorem length_le_length_escaped (cs : List Char)
    : cs.length ≤ (cs.flatMap Value.escaped).length := by
  have hescaped : ∀ c, 0 < (Value.escaped c).length := by
    intro c
    unfold Value.escaped
    split
    all_goals try exact Nat.succ_pos _
    split <;> exact Nat.succ_pos _
  induction cs with
  | nil => exact Nat.le_refl 0
  | cons c cs ih =>
      have hfirst := hescaped c
      simp only [List.flatMap_cons, List.length_cons, List.length_append]
      omega

/-- A quoted string is read from behind its opening quote. -/
theorem reads_string (s : String) (rest : List Char)
    : Reads string (s.toList.flatMap Value.escaped ++ ['"']) s rest := by
  intro p
  have hlength := length_le_length_escaped s.toList
  have hcount : s.toList.length
      < (s.toList.flatMap Value.escaped ++ ['"'] ++ rest).length + 1 := by
    simp only [List.length_append]
    omega
  have hchars := reads_stringChars hcount rest p
  simp only [string, hchars, bind, Except.bind, String.ofList_toList]

-----------------------------------------------------------------------------------------
-- Whole numbers
-----------------------------------------------------------------------------------------

/-- No character that would belong to a number stands first. -/
def EndsNumber (rest : List Char) : Prop :=
  ∀ c ∈ rest.head?, c.isDigit = false ∧ c ≠ '.' ∧ c ≠ 'e' ∧ c ≠ 'E'

theorem isDigit_digitChars (n : Nat) : ∀ c ∈ Decimal.digitChars n, c.isDigit = true :=
  fun _ hc => Nat.isDigit_of_mem_toDigits (by decide) (by decide) hc

theorem natOf_digitChars (n : Nat) : natOf (digitsOf (Decimal.digitChars n)) = n := by
  have hdigits : Nat.ofDigitChars 10 (Decimal.digitChars n) 0 = n :=
    Nat.ofDigitChars_ten_toDigits
  rw [Nat.ofDigitChars_eq_foldl] at hdigits
  simp only [Nat.mul_comm 10] at hdigits
  rw [natOf, digitsOf, List.foldl_map]
  exact hdigits

/-- Only zero has a leading zero, by induction on the number of digits. -/
theorem head?_digitChars {n : Nat} (h : 0 < n)
    : ∃ first others, Decimal.digitChars n = first :: others ∧ first ≠ '0' := by
  induction n using Nat.strongRecOn with
  | ind n ih =>
      rw [Decimal.digitChars, Nat.toDigits_eq_if (by decide)]
      split
      · next hsmall =>
        have hdigit : ∀ n < 10, 0 < n → n.digitChar ≠ '0' := by decide
        exact ⟨n.digitChar, [], rfl, hdigit n hsmall h⟩
      · next hlarge =>
        obtain ⟨first, others, hdigits, hfirst⟩ := ih (n / 10) (by omega) (by omega)
        rw [Decimal.digitChars] at hdigits
        exact ⟨first, others ++ [(n % 10).digitChar], by rw [hdigits]; rfl, hfirst⟩

/-- A run of digits that stands for a number of at most 64 bits is read as this number. -/
theorem afterWhole_of_endsNumber {negative : Bool} {digits : List Nat} {rest : List Char}
    (hlimit : natOf digits < Gathered.limit) (hrest : EndsNumber rest) (p : Position)
    : afterWhole negative digits ⟨rest, p⟩
      = .ok (wholeValue negative (natOf digits), ⟨rest, p⟩) := by
  cases rest with
  | nil => simp only [afterWhole, hlimit, if_true]
  | cons c rest =>
      obtain ⟨_, hpoint, he, hE⟩ := hrest c rfl
      unfold afterWhole
      split
      · next heq => exact absurd (List.cons.inj heq).1 hpoint
      · next heq => exact absurd (List.cons.inj heq).1 he
      · next heq => exact absurd (List.cons.inj heq).1 hE
      · rw [if_pos hlimit]

/-- The digits of a number are read as this number: a zero alone, and a longer run since it
has no leading zero.
-/
theorem reads_unsigned {negative : Bool} {n : Nat} (hlimit : n < Gathered.limit)
    {rest : List Char} (hrest : EndsNumber rest)
    : Reads (unsigned negative) (Decimal.digitChars n) (wholeValue negative n) rest := by
  intro p
  rcases Nat.eq_zero_or_pos n with rfl | hpos
  · have hzero : Decimal.digitChars 0 = ['0'] := Nat.toDigits_zero 10
    have hwhole : afterWhole negative [0] ⟨rest, p.past '0'⟩
        = .ok (wholeValue negative 0, ⟨rest, p.past '0'⟩) :=
      afterWhole_of_endsNumber (by decide) hrest (p.past '0')
    rw [hzero]
    cases rest with
    | nil => exact hwhole
    | cons c rest =>
        have hdigit : ¬ c.isDigit = true := by simp [(hrest c rfl).1]
        simp only [unsigned, List.cons_append, List.nil_append, Cursor.advance, hdigit]
        exact hwhole
  · obtain ⟨first, others, hdigits, hfirst⟩ := head?_digitChars hpos
    have hrun : (Cursor.mk (Decimal.digitChars n ++ rest) p).run Char.isDigit
        = (Decimal.digitChars n, ⟨rest, p.pastAll (Decimal.digitChars n)⟩) :=
      Cursor.run_append (isDigit_digitChars n) fun c hc => (hrest c hc).1
    have hsome : Decimal.digitChars n ≠ [] := Nat.toDigits_ne_nil
    have hnumber := natOf_digitChars n
    unfold unsigned
    split
    · next heq =>
      rw [hdigits] at heq
      exact nomatch heq
    · next heq =>
      rw [hdigits] at heq
      exact absurd (List.cons.inj heq).1 hfirst
    · rw [hrun]
      simp only [hsome, if_false]
      rw [afterWhole_of_endsNumber (by rwa [hnumber]) hrest, hnumber]

theorem exists_digitChars_eq_cons (n : Nat)
    : ∃ first others, Decimal.digitChars n = first :: others ∧ first.isDigit = true := by
  have hsome : Decimal.digitChars n ≠ [] := Nat.toDigits_ne_nil
  obtain ⟨first, others, hdigits⟩ := List.exists_cons_of_ne_nil hsome
  exact ⟨first, others, hdigits, isDigit_digitChars n first (by simp [hdigits])⟩

theorem exists_intChars_eq_cons (n : Int)
    : ∃ first others,
        Decimal.intChars n = first :: others ∧ (first = '-' ∨ first.isDigit = true) := by
  cases n with
  | ofNat n =>
      obtain ⟨first, others, hdigits, hdigit⟩ := exists_digitChars_eq_cons n
      exact ⟨first, others, hdigits, .inr hdigit⟩
  | negSucc n => exact ⟨'-', Decimal.digitChars (n + 1), rfl, .inl rfl⟩

/-- A whole number within the limits is read back from its text. -/
theorem reads_number {n : Int} (hmin : Value.minInt ≤ n) (hmax : n ≤ Value.maxInt)
    {rest : List Char} (hrest : EndsNumber rest)
    : Reads number (Decimal.intChars n) (.int n) rest := by
  intro p
  cases n with
  | ofNat n =>
      simp only [Value.maxInt, Int.ofNat_eq_natCast] at hmax
      have hlimit : n < Gathered.limit := by
        simp only [Gathered.limit]
        omega
      obtain ⟨first, others, hdigits, hdigit⟩ := exists_digitChars_eq_cons n
      have hsign : first ≠ '-' := by
        rintro rfl
        exact absurd hdigit (by decide)
      unfold number
      split
      · next heq =>
        rw [Decimal.intChars, hdigits] at heq
        exact absurd (List.cons.inj heq).1 hsign
      · exact reads_unsigned hlimit hrest p
  | negSucc n =>
      simp only [Value.minInt, Int.negSucc_eq] at hmin
      have hlimit : n + 1 < Gathered.limit := by
        simp only [Gathered.limit]
        omega
      have hnegative : wholeValue true (n + 1) = .int (.negSucc n) := by
        have hleast : Value.minInt ≤ -((n + 1 : Nat) : Int) := by
          simp only [Value.minInt]
          omega
        have hwithin : 0 < n + 1 && Value.minInt ≤ -((n + 1 : Nat) : Int) :=
          Bool.and_eq_true_iff.mpr
            ⟨decide_eq_true (Nat.succ_pos n), decide_eq_true hleast⟩
        simp only [wholeValue, if_true, hwithin]
        rfl
      rw [← hnegative]
      exact reads_unsigned hlimit hrest (p.past '-')

end Json

end DeclaredSettings
