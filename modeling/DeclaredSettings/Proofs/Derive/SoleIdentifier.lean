import Mathlib.Data.List.TakeWhile
import DeclaredSettings.Derive.Syntax.Language
import DeclaredSettings.Proofs.Text.IdentifierCharacters

/-! Texts of identifier characters alone. The lexer takes such a text for one plain
identifier, unless it begins like a number; so the one identifier that the text can be is
the text itself.
-/

namespace DeclaredSettings.Derive

open Text

-----------------------------------------------------------------------------------------
-- Trees keep the tokens outside of brackets
-----------------------------------------------------------------------------------------

/-- The tokens outside of all brackets so far, backwards. -/
def outermost : List Frame → List Tree → List Tree
  | [], done => done
  | frame :: frames, _ => outermost frames frame.before

/-- A further token is put behind the tokens outside of brackets, or inside brackets. -/
theorem outermost_suffix_cons (frames : List Frame) (done : List Tree) (tree : Tree)
    : outermost frames done <:+ outermost frames (tree :: done) := by
  cases frames with
  | nil => exact List.suffix_cons tree done
  | cons frame frames => exact List.suffix_refl _

/-- The trees of some tokens begin with those that were outside of all brackets at the
start, by induction on the tokens.
-/
theorem outermost_isPrefix {frames : List Frame} {done : List Tree}
    {lexemes : List Lexeme} {trees : List Tree}
    (h : nest? frames done lexemes = some trees)
    : (outermost frames done).reverse <+: trees := by
  have hlonger : ∀ {before after : List Tree},
      before <:+ after → after.reverse <+: trees → before.reverse <+: trees :=
    fun hsuffix => (List.reverse_prefix.mpr hsuffix).trans
  fun_induction nest? frames done lexemes with
  | case1 done =>
      obtain rfl := Option.some.inj h
      exact List.prefix_refl _
  | case2 => exact nomatch h
  | case3 frames done ident span rest ih =>
      exact hlonger (outermost_suffix_cons frames done _) (ih h)
  | case4 frames done c joined span rest ih =>
      exact hlonger (outermost_suffix_cons frames done _) (ih h)
  | case5 frames done text span rest ih =>
      exact hlonger (outermost_suffix_cons frames done _) (ih h)
  | case6 frames done delimiter span rest ih => exact ih h
  | case7 => exact nomatch h
  | case8 frame frames done span rest ih =>
      exact hlonger (outermost_suffix_cons frames frame.before _) (ih h)
  | case9 => exact nomatch h

-----------------------------------------------------------------------------------------
-- What identifier characters do not start
-----------------------------------------------------------------------------------------

variable {c : Char} {rest : List Char}

/-- No character of identifiers is one of the marks between tokens. -/
theorem ne_mark (h : isIdentifierContinue c = true) {mark : Char}
    (hmark : ∃ range ∈ markRanges, range.1 ≤ mark.toNat ∧ mark.toNat ≤ range.2)
    (hascii : ¬ mark.toNat < 0x80)
    : c ≠ mark := by
  obtain ⟨range, hrange, hin⟩ := hmark
  exact ne_of_isIdentifierContinue h
    (not_isIdentifierContinue (List.mem_append_left _ hrange) hin hascii)

theorem isSourceBlank_of_isIdentifierContinue (h : isIdentifierContinue c = true)
    : isSourceBlank c = false := by
  have hleft : c ≠ '\u200E' := ne_mark h (by decide) (by decide)
  have hright : c ≠ '\u200F' := ne_mark h (by decide) (by decide)
  simp [isSourceBlank, isWhiteSpace_of_isIdentifierContinue h, hleft, hright]

/-- The signs with which marks, brackets, comments and quoted texts begin. -/
def signs : List Char :=
  "~!@#$%^&*-=+|;:,<.>/?'\"()[]\x7b\x7d".toList

/-- No sign is a character of identifiers: each is an ASCII character, but no letter, no
underscore and no digit.
-/
theorem isIdentifierContinue_sign
    : ∀ sign ∈ signs, isIdentifierContinue sign = false := by
  intro sign hsign
  have hascii : signs.all (Nat.blt ·.toNat 0x80) = true := by decide
  have hother : signs.all (fun c => !(c.isAlpha || c == '_' || c.isDigit)) = true := by
    decide
  rw [isIdentifierContinue_ascii (Nat.blt_eq.mp (List.all_eq_true.mp hascii sign hsign))]
  simpa using List.all_eq_true.mp hother sign hsign

theorem ne_sign (h : isIdentifierContinue c = true) {sign : Char} (hsign : sign ∈ signs)
    : c ≠ sign :=
  ne_of_isIdentifierContinue h (isIdentifierContinue_sign sign hsign)

theorem plainComment?_eq_none (h : isIdentifierContinue c = true)
    : plainComment? (c :: rest) = none := by
  have hslash : c ≠ '/' := ne_sign h (by decide)
  unfold plainComment?
  split
  · next heq => exact absurd (List.cons.inj heq).1 hslash
  · next heq => exact absurd (List.cons.inj heq).1 hslash
  · rfl

theorem documentation?_eq_none (h : isIdentifierContinue c = true)
    : documentation? (c :: rest) = none := by
  have hslash : c ≠ '/' := ne_sign h (by decide)
  unfold documentation?
  split
  · next heq => exact absurd (List.cons.inj heq).1 hslash
  · next heq => exact absurd (List.cons.inj heq).1 hslash
  · next heq => exact absurd (List.cons.inj heq).1 hslash
  · next heq => exact absurd (List.cons.inj heq).1 hslash
  · rfl

/-- Nothing is skipped in front of a character of identifiers. -/
theorem skipBlanks_eq_self (h : isIdentifierContinue c = true) (count : Nat)
    : skipBlanks count (c :: rest) = c :: rest := by
  cases count with
  | zero => rfl
  | succ count =>
      have hdrop : (c :: rest).dropWhile isSourceBlank = c :: rest := by
        simp [isSourceBlank_of_isIdentifierContinue h]
      simp only [skipBlanks, hdrop, plainComment?_eq_none h]

theorem bracket?_eq_none (h : isIdentifierContinue c = true) : bracket? c = none := by
  unfold bracket?
  split
  case h_7 => rfl
  all_goals exact absurd rfl (ne_sign h (by decide))

theorem mark?_eq_none (h : isIdentifierContinue c = true)
    : mark? (c :: rest) = none := by
  have hmark : isMark (c :: rest) = false := by
    have hmarks : "~!@#$%^&*-=+|;:,<.>/?'".toList.all (signs.contains ·) = true := by
      decide
    have hnone : c ∉ "~!@#$%^&*-=+|;:,<.>/?'".toList := fun hlisted =>
      ne_sign h (List.contains_iff_mem.mp (List.all_eq_true.mp hmarks c hlisted)) rfl
    unfold isMark
    split
    · rfl
    · rfl
    · next heq =>
      rw [← (List.cons.inj heq).1]
      exact decide_eq_false hnone
    · rfl
  unfold mark?
  split
  · rfl
  · next heq => exact absurd (List.cons.inj heq).1 (ne_sign h (by decide))
  · next heq =>
    obtain ⟨rfl, rfl⟩ := List.cons.inj heq
    simp [hmark]

/-- The next token there is no comment, no error and no bracket. -/
theorem next?_eq_map_leaf? (h : isIdentifierContinue c = true)
    : next? (c :: rest)
      = (leaf? (c :: rest)).map fun (kind, behind) => ([kind], behind) := by
  have herror : after? errorMark (c :: rest) = none := by
    have hopening : '(' ≠ c := (ne_sign h (by decide)).symm
    rw [show errorMark = '(' :: "/*ERROR*/)".toList from rfl, after?, if_neg hopening]
  simp only [next?, documentation?_eq_none h, herror, List.head?_cons, Option.bind_some,
    bracket?_eq_none h]

-----------------------------------------------------------------------------------------
-- The one token of such a text
-----------------------------------------------------------------------------------------

/-- Such a text is read as an identifier up to its end, if it is read as one. -/
theorem ident?_of_identifierChars {cs : List Char}
    (h : ∀ c ∈ cs, isIdentifierContinue c = true) {found : Ident × List Char}
    (hfound : ident? cs = some found)
    : isIdentifier cs = true ∧ found = (.plain (String.ofList cs), []) := by
  unfold ident? at hfound
  split at hfound
  · -- a raw identifier has a sign in it
    exact absurd rfl (ne_sign (h '#' (by simp)) (by decide))
  · obtain ⟨⟨name, behind⟩, hplain, rfl⟩ := Option.map_eq_some_iff.mp hfound
    cases cs with
    | nil => cases hplain
    | cons first rest =>
        obtain ⟨hfirst, hrest⟩ := List.forall_mem_cons.mp h
        simp only [plainIdent?] at hplain
        split at hplain
        · next hstart =>
          obtain ⟨rfl, rfl⟩ := Prod.mk.inj (Option.some.inj hplain)
          have htaken : rest.takeWhile isIdentifierContinue = rest :=
            List.takeWhile_eq_self_iff.mpr hrest
          have hdropped : rest.dropWhile isIdentifierContinue = [] :=
            List.dropWhile_eq_nil_iff.mpr hrest
          rw [htaken, hdropped]
          refine ⟨?_, rfl⟩
          simpa only [isIdentifier, hstart, Bool.true_and, List.all_eq_true] using hrest
        · cases hplain

/-- The first token of such a text is a literal, or the whole text as an identifier. -/
theorem leaf?_of_identifierChars {cs : List Char}
    (h : ∀ c ∈ cs, isIdentifierContinue c = true) (hsome : cs ≠ [])
    {found : Lexeme.Kind × List Char} (hfound : leaf? cs = some found)
    : (∃ text, found.1 = .literal text)
      ∨ isIdentifier cs = true ∧ found = (.ident (.plain (String.ofList cs)), []) := by
  obtain ⟨first, rest, rfl⟩ := List.exists_cons_of_ne_nil hsome
  unfold leaf? at hfound
  split at hfound
  · obtain rfl := Option.some.inj hfound
    exact .inl ⟨_, rfl⟩
  · rw [mark?_eq_none (h first List.mem_cons_self)] at hfound
    simp only at hfound
    split at hfound
    · exact nomatch hfound
    · obtain ⟨⟨ident, behind⟩, hident, rfl⟩ := Option.map_eq_some_iff.mp hfound
      obtain ⟨hidentifier, heq⟩ := ident?_of_identifierChars h hident
      cases heq
      exact .inr ⟨hidentifier, rfl⟩

theorem next?_of_identifierChars {cs : List Char}
    (h : ∀ c ∈ cs, isIdentifierContinue c = true) (hsome : cs ≠ [])
    {found : List Lexeme.Kind × List Char} (hfound : next? cs = some found)
    : (∃ text, found.1 = [.literal text])
      ∨ isIdentifier cs = true ∧ found = ([.ident (.plain (String.ofList cs))], []) := by
  obtain ⟨first, rest, rfl⟩ := List.exists_cons_of_ne_nil hsome
  rw [next?_eq_map_leaf? (h first List.mem_cons_self)] at hfound
  obtain ⟨⟨kind, behind⟩, hleaf, rfl⟩ := Option.map_eq_some_iff.mp hfound
  rcases leaf?_of_identifierChars h hsome hleaf with ⟨text, htext⟩ | ⟨hidentifier, heq⟩
  · exact .inl ⟨text, by rw [← htext]⟩
  · cases heq
    exact .inr ⟨hidentifier, rfl⟩

theorem lexemes?_nil (count place : Nat) : lexemes? count place [] = some [] := by
  cases count with
  | zero => rfl
  | succ count => rfl

/-- The tokens of a text of identifier characters begin with a literal, or are the whole text
as an identifier.
-/
theorem lexemes?_of_identifierChars {cs : List Char}
    (h : ∀ c ∈ cs, isIdentifierContinue c = true) (hsome : cs ≠ []) {count place : Nat}
    {found : List Lexeme} (hfound : lexemes? (count + 1) place cs = some found)
    : (∃ text span others, found = ⟨.literal text, span⟩ :: others)
      ∨ isIdentifier cs = true
        ∧ ∃ span, found = [⟨.ident (.plain (String.ofList cs)), span⟩] := by
  obtain ⟨first, rest, rfl⟩ := List.exists_cons_of_ne_nil hsome
  have hskip : skipBlanks ((first :: rest).length + 1) (first :: rest) = first :: rest :=
    skipBlanks_eq_self (h first List.mem_cons_self) _
  simp only [lexemes?, hskip, if_neg hsome] at hfound
  obtain ⟨⟨kinds, behind⟩, hnext, hothers⟩ := Option.bind_eq_some_iff.mp hfound
  obtain ⟨others, hlexemes, heq⟩ := Option.bind_eq_some_iff.mp hothers
  obtain rfl := Option.some.inj heq
  rcases next?_of_identifierChars h hsome hnext with ⟨text, htext⟩ | ⟨hidentifier, heq⟩
  · simp only at htext
    subst htext
    exact .inl ⟨text, _, others, rfl⟩
  · cases heq
    obtain rfl := Option.some.inj ((lexemes?_nil _ _).symm.trans hlexemes)
    exact .inr ⟨hidentifier, _, rfl⟩

/-- A text is one identifier if and only if this is its one token. -/
theorem soleIdent?_eq_some {text : String} {ident : Ident}
    : soleIdent? text = some ident
      ↔ ∃ span, trees? text.toList = some [.ident ident span] := by
  unfold soleIdent?
  constructor
  · intro h
    split at h
    · next found span htrees => exact ⟨span, by rw [htrees, Option.some.inj h]⟩
    · exact nomatch h
  · rintro ⟨span, htrees⟩
    rw [htrees]

/-- The one identifier that a text of identifier characters is is the text itself, which
then is an identifier.
-/
theorem soleIdent?_of_identifierChars {text : String}
    (h : ∀ c ∈ text.toList, isIdentifierContinue c = true) {ident : Ident}
    (hsole : soleIdent? text = some ident)
    : isIdentifier text.toList = true ∧ ident = .plain text := by
  obtain ⟨span, htrees⟩ := soleIdent?_eq_some.mp hsole
  unfold trees? at htrees
  split at htrees
  · -- a text with a byte-order mark in front has a character that is none of identifiers
    next heq =>
    have hfirst := h '\uFEFF' (by simp [heq])
    exact absurd rfl (ne_mark hfirst (by decide) (by decide))
  · obtain ⟨lexemes, hlexemes, hnest⟩ := Option.bind_eq_some_iff.mp htrees
    have hsome : text.toList ≠ [] := by
      intro hnil
      rw [hnil, lexemes?_nil] at hlexemes
      obtain rfl := Option.some.inj hlexemes
      exact nomatch hnest
    rcases lexemes?_of_identifierChars h hsome hlexemes with
      ⟨literal, place, others, rfl⟩ | ⟨hidentifier, place, rfl⟩
    · -- a literal in front stays in front of the trees
      have hfront : (outermost [] [.literal literal place]).reverse
          <+: [Tree.ident ident span] :=
        outermost_isPrefix hnest
      exact nomatch (List.cons_prefix_cons.mp hfront).1
    · rw [String.ofList_toList] at hnest
      cases hnest
      exact ⟨hidentifier, rfl⟩

end DeclaredSettings.Derive
