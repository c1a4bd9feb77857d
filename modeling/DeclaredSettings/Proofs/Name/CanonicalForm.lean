import Mathlib.Logic.Function.Iterate
import DeclaredSettings.Settings
import DeclaredSettings.Proofs.Name.SymbolSpelling

/-! Which texts spell a name, said without the steps of canonicalising: the name itself or
its symbol, between stretches of white space. A name is tidy and determined by any of its
spellings, and spelling it by itself over and over ends at a name that is no symbol.
-/

namespace DeclaredSettings

open Text

/-- White space, or nothing. -/
def IsBlank (text : String) : Prop :=
  ∀ c ∈ text.toList, isWhiteSpace c = true

/-- A text that spells a name. The name may stand alone or behind a colon, with white space
on all sides; a name that is a symbol has to stand behind a colon.
-/
inductive Spells (name : String) : String → Prop
  | plain {before after : String} (front : IsBlank before) (back : IsBlank after)
    (noSymbol : ¬ IsSymbol name)
    : Spells name (before ++ name ++ after)
  | symbol {before between after : String} (front : IsBlank before)
    (inside : IsBlank between) (back : IsBlank after)
    : Spells name (before ++ ":" ++ between ++ name ++ after)

-----------------------------------------------------------------------------------------
-- Trimming and stretches of white space
-----------------------------------------------------------------------------------------

section Stretches

variable {before after cs : List Char}

theorem trimStart_append (h : ∀ c ∈ before, isWhiteSpace c = true) (cs : List Char)
    : trimStart (before ++ cs) = trimStart cs :=
  List.dropWhile_append_of_pos h

/-- White space at the end is cut off, by cutting it off the start of the reverse. -/
theorem trimEnd_append (h : ∀ c ∈ after, isWhiteSpace c = true) (cs : List Char)
    : trimEnd (cs ++ after) = trimEnd cs := by
  have hreverse : ∀ c ∈ after.reverse, isWhiteSpace c = true :=
    fun c hc => h c (List.mem_reverse.mp hc)
  rw [trimEnd, List.reverse_append, List.dropWhile_append_of_pos hreverse, trimEnd]

/-- Trimming leaves what stands between white space, if this is trimmed. -/
theorem trim_between (hbefore : ∀ c ∈ before, isWhiteSpace c = true)
    (hafter : ∀ c ∈ after, isWhiteSpace c = true) (h : Trimmed cs)
    : trim (before ++ cs ++ after) = cs := by
  rw [trim, List.append_assoc, trimStart_append hbefore]
  cases cs with
  | nil =>
      have hall : trimStart (after ++ []) = trimStart [] := trimStart_append hafter []
      rw [List.nil_append, ← List.append_nil after, hall]
      rfl
  | cons c rest =>
      have hstart : trimStart (c :: rest ++ after) = c :: rest ++ after := by
        rw [List.cons_append, trimStart, List.dropWhile_cons, h.1 c rfl]
        rfl
      rw [hstart, trimEnd_append hafter, trimEnd_of_trimmed h]

theorem exists_blank_append_trimStart (cs : List Char)
    : ∃ before, (∀ c ∈ before, isWhiteSpace c = true) ∧ cs = before ++ trimStart cs :=
  ⟨cs.takeWhile isWhiteSpace, fun _ hc => List.all_eq_true.mp List.all_takeWhile _ hc,
    List.takeWhile_append_dropWhile.symm⟩

/-- What trimming cuts off at the ends is white space. -/
theorem exists_blank_append_trim (cs : List Char)
    : ∃ before after,
        (∀ c ∈ before, isWhiteSpace c = true)
        ∧ (∀ c ∈ after, isWhiteSpace c = true)
        ∧ cs = before ++ trim cs ++ after := by
  obtain ⟨before, hbefore, hcs⟩ := exists_blank_append_trimStart cs
  obtain ⟨tail, htail, hreverse⟩ := exists_blank_append_trimStart (trimStart cs).reverse
  refine ⟨before, tail.reverse, hbefore, fun c hc => htail c (List.mem_reverse.mp hc), ?_⟩
  have hend : trimStart cs = trimEnd (trimStart cs) ++ tail.reverse := by
    have hsame := congrArg List.reverse hreverse
    rwa [List.reverse_reverse, List.reverse_append] at hsame
  rw [trim, List.append_assoc, ← hend]
  exact hcs

end Stretches

-----------------------------------------------------------------------------------------
-- Spellings of a name
-----------------------------------------------------------------------------------------

/-- A text spells its canonical form: what is cut off at the ends is white space, and if
there is a colon in front of the rest then white space may follow it.
-/
theorem spells_of_canonical_eq {text name : String} (h : canonical text = name)
    : Spells name text := by
  have hname : canonicalChars text.toList = name.toList := by
    rw [← h, canonical, String.toList_ofList]
  obtain ⟨before, after, hbefore, hafter, hchars⟩ := exists_blank_append_trim text.toList
  have hfront : IsBlank (.ofList before) := by rwa [IsBlank, String.toList_ofList]
  have hback : IsBlank (.ofList after) := by rwa [IsBlank, String.toList_ofList]
  unfold canonicalChars at hname
  split at hname
  · next rest htrim =>
    obtain ⟨between, hbetween, hrest⟩ := exists_blank_append_trimStart rest
    have hinside : IsBlank (.ofList between) := by rwa [IsBlank, String.toList_ofList]
    have htext : text = .ofList before ++ ":" ++ .ofList between ++ name ++ .ofList after := by
      rw [← String.toList_inj, hchars, htrim, hrest, hname]
      simp [String.toList_append]
    rw [htext]
    exact .symbol hfront hinside hback
  · next trimmed hplain =>
    rw [trimStart_of_trimmed (trimmed_trim _)] at hname
    have htext : text = .ofList before ++ name ++ .ofList after := by
      rw [← String.toList_inj, hchars, hname]
      simp [String.toList_append]
    rw [htext]
    refine .plain hfront hback fun hsymbol => ?_
    obtain ⟨rest, hcolon⟩ := List.head?_eq_some_iff.mp hsymbol
    exact hplain rest (hname.trans hcolon)

theorem canonicalChars_congr {cs ds : List Char} (h : trim cs = trim ds)
    : canonicalChars cs = canonicalChars ds := by
  rw [canonicalChars, canonicalChars, h]

/-- A colon and white space in front of a trimmed text are what canonicalising takes off, with
the white space at the ends. The text may be empty, and then all white space is at the end.
-/
theorem canonicalChars_symbol {before between cs after : List Char}
    (hbefore : ∀ c ∈ before, isWhiteSpace c = true)
    (hbetween : ∀ c ∈ between, isWhiteSpace c = true)
    (hafter : ∀ c ∈ after, isWhiteSpace c = true) (h : Trimmed cs)
    : canonicalChars (before ++ ':' :: between ++ cs ++ after) = cs := by
  cases cs with
  | nil =>
      have hend : ∀ c ∈ between ++ after, isWhiteSpace c = true := by
        intro c hc
        exact (List.mem_append.mp hc).elim (hbetween c) (hafter c)
      have hcolon : Trimmed [':'] := trimmed_colon trimmed_nil
      have htrim : trim (before ++ [':'] ++ (between ++ after)) = [':'] :=
        trim_between hbefore hend hcolon
      rw [canonicalChars, ← List.append_nil (':' :: between)]
      simp only [List.append_assoc, List.cons_append, List.nil_append] at htrim ⊢
      rw [htrim]
      rfl
  | cons c rest =>
      have hlast : (':' :: between ++ c :: rest).getLast? = (c :: rest).getLast? := by
        rw [List.getLast?_append, List.getLast?_cons, Option.some_or]
      have htrimmed : Trimmed (':' :: between ++ c :: rest) :=
        ⟨(trimmed_colon trimmed_nil).1, fun d hd => h.2 d (hlast ▸ hd)⟩
      have htrim : trim (before ++ (':' :: between ++ c :: rest) ++ after) = _ :=
        trim_between hbefore hafter htrimmed
      rw [canonicalChars, List.append_assoc before, htrim]
      exact (trimStart_append hbetween _).trans (trimStart_of_trimmed h)

/-- A tidy name is the canonical form of all texts that spell it. -/
theorem canonical_of_spells {name text : String} (htidy : IsTidy name)
    (h : Spells name text)
    : canonical text = name := by
  have hchars : canonicalChars text.toList = name.toList := by
    cases h with
    | @plain before after hfront hback hplain =>
        have htrim := (trim_between hfront hback htidy).trans (trim_of_trimmed htidy).symm
        rw [String.toList_append, String.toList_append, canonicalChars_congr htrim]
        exact canonicalChars_of_trimmed htidy hplain
    | @symbol before between after hfront hinside hback =>
        have hsymbol := canonicalChars_symbol hfront hinside hback htidy
        have htext : (before ++ ":" ++ between ++ name ++ after).toList
            = before.toList ++ ':' :: between.toList ++ name.toList ++ after.toList := by
          simp [String.toList_append]
        rw [htext, hsymbol]
  rw [canonical, hchars, String.ofList_toList]

/-- A name is the canonical form of a text if and only if it is tidy and the text spells it.
-/
theorem canonical_eq_iff (text name : String)
    : canonical text = name ↔ IsTidy name ∧ Spells name text := by
  constructor
  · intro h
    exact ⟨h ▸ isTidy_canonical text, spells_of_canonical_eq h⟩
  · rintro ⟨htidy, hspells⟩
    exact canonical_of_spells htidy hspells

-----------------------------------------------------------------------------------------
-- Canonicalising over and over
-----------------------------------------------------------------------------------------

/-- Canonicalising puts no colons in, since it leaves a stretch of the text. -/
theorem colons_canonical_le (text : String) : colons (canonical text) ≤ colons text := by
  rw [colons, canonical, String.toList_ofList]
  have hstretch := canonicalChars_infix text.toList
  exact hstretch.sublist.count_le ':'

/-- A tidy name loses a colon in each round until it is no symbol, by induction on the number
of rounds.
-/
theorem canonical_iterate_of_tidy {rounds : Nat} {name : String} (htidy : IsTidy name)
    (h : colons name ≤ rounds)
    : canonical (canonical^[rounds] name) = canonical^[rounds] name := by
  induction rounds generalizing name with
  | zero =>
      refine (canonical_eq_self_iff name).mpr ⟨htidy, fun hsymbol => ?_⟩
      have hlt := colons_canonical_lt htidy hsymbol
      omega
  | succ rounds ih =>
      by_cases hsymbol : IsSymbol name
      · have hlt := colons_canonical_lt htidy hsymbol
        rw [Function.iterate_succ_apply]
        exact ih (isTidy_canonical name) (by omega)
      · have hself := (canonical_eq_self_iff name).mpr ⟨htidy, hsymbol⟩
        rw [Function.iterate_fixed hself, hself]

/-- The first round makes any text tidy, so one round more than it has colons is enough. -/
theorem canonical_iterate {rounds : Nat} {text : String} (h : colons text < rounds)
    : canonical (canonical^[rounds] text) = canonical^[rounds] text := by
  obtain ⟨further, rfl⟩ := Nat.exists_eq_add_of_lt h
  rw [Function.iterate_succ_apply]
  have hbound := colons_canonical_le text
  exact canonical_iterate_of_tidy (isTidy_canonical text) (by omega)

-----------------------------------------------------------------------------------------
-- The law
-----------------------------------------------------------------------------------------

/-- What canonicalising does with a text. -/
structure CanonicalForm (text : String) : Prop where
  /-- It leaves the tidy name that the text spells. -/
  spelled : ∀ name, canonical text = name ↔ IsTidy name ∧ Spells name text
  /-- It leaves nothing but tidy names, and each of these. -/
  image : (∃ spelling, canonical spelling = text) ↔ IsTidy text
  unchanged : canonical text = text ↔ IsTidy text ∧ ¬ IsSymbol text
  /-- Whether it changes the text can be seen by the length in bytes. -/
  size : canonical text = text ↔ (canonical text).utf8ByteSize = text.utf8ByteSize
  /-- So mappings are taken over, and owned texts kept, only where that is right. -/
  shortest : Settings.isShortestSpelling text = true ↔ canonical text = text
  owned : Name.ofOwned text = Name.of text
  /-- After one round more than the text has colons, further ones change nothing. -/
  settled
    : ∀ rounds,
        colons text < rounds
        → canonical (canonical^[rounds] text) = canonical^[rounds] text

/-- Canonicalising gives the tidy name that a text spells. -/
theorem canonical_form (text : String) : CanonicalForm text := by
  have hsize : canonical text = text
      ↔ (canonical text).utf8ByteSize = text.utf8ByteSize :=
    ⟨fun h => congrArg String.utf8ByteSize h, canonical_eq_of_size_eq⟩
  constructor
  case spelled => exact canonical_eq_iff text
  case image => exact exists_canonical_iff text
  case unchanged => exact canonical_eq_self_iff text
  case size => exact hsize
  case shortest => exact decide_eq_true_iff.trans hsize.symm
  case owned => exact Name.ofOwned_eq_of text
  case settled => exact fun _ => canonical_iterate

end DeclaredSettings
