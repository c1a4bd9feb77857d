import Mathlib.Data.List.TakeDrop
import DeclaredSettings.Proofs.Derive.SoleIdentifier

/-! The identifiers among the tokens of a text. An identifier alone is read as itself, a
text that begins with a colon as no identifier, and whatever else a text consists of, the
names of its identifiers are identifiers.
-/

namespace DeclaredSettings.Derive

open Text

-----------------------------------------------------------------------------------------
-- An identifier is read as itself
-----------------------------------------------------------------------------------------

section Literals

variable {cs : List Char}

/-- A text that begins with another is this one and what stands behind it, by induction on
the front.
-/
theorem eq_append_of_after? {front behind : List Char} (h : after? front cs = some behind)
    : cs = front ++ behind := by
  fun_induction after? front cs with
  | case1 cs => exact Option.some.inj h
  | case2 => exact nomatch h
  | case3 c front cs ih => rw [ih h, List.cons_append]
  | case4 => exact nomatch h

/-- A text of identifier characters holds no sign, so it does not begin with what holds one.
-/
theorem after?_eq_none (h : ∀ c ∈ cs, isIdentifierContinue c = true) {front : List Char}
    (hfront : ∃ sign ∈ front, sign ∈ signs)
    : after? front cs = none := by
  obtain ⟨sign, hsign, hlisted⟩ := hfront
  cases hafter : after? front cs with
  | none => rfl
  | some behind =>
      have hmem : sign ∈ cs := by
        rw [eq_append_of_after? hafter]
        exact List.mem_append_left _ hsign
      exact absurd rfl (ne_sign (h sign hmem) hlisted)

/-- So it is no raw string from behind its `r`. -/
theorem rawString?_eq_none (h : ∀ c ∈ cs, isIdentifierContinue c = true)
    (alphabet : Alphabet)
    : rawString? alphabet cs = none := by
  have hbehind : ∀ c ∈ cs.dropWhile (· == '#'), isIdentifierContinue c = true :=
    fun c hc => h c (List.dropWhile_subset _ hc)
  have hquote : after? ['"'] (cs.dropWhile (· == '#')) = none :=
    after?_eq_none hbehind ⟨'"', List.mem_cons_self, by decide⟩
  simp [rawString?, List.span_eq_takeWhile_dropWhile, hquote]

/-- Nor is it a string, a character or a byte: all of these have quotes. -/
theorem behindText?_eq_none (h : ∀ c ∈ cs, isIdentifierContinue c = true)
    : behindText? cs = none := by
  have hsign : ∀ sign ∈ cs, sign ∉ signs := fun sign hmem hlisted =>
    ne_sign (h sign hmem) hlisted rfl
  unfold behindText?
  rw [Option.map_eq_none_iff]
  split
  · exact absurd (by decide) (hsign '"' (by simp))
  · exact absurd (by decide) (hsign '"' (by simp))
  · exact absurd (by decide) (hsign '"' (by simp))
  · exact absurd (by decide) (hsign '\'' (by simp))
  · next rest => exact rawString?_eq_none (fun c hc => h c (by simp [hc])) _
  · next rest => exact rawString?_eq_none (fun c hc => h c (by simp [hc])) _
  · next rest => exact rawString?_eq_none (fun c hc => h c (by simp [hc])) _
  · exact absurd (by decide) (hsign '\'' (by simp))
  · rfl

/-- The ten digits start no identifier. -/
theorem isIdentifierStart_digit
    : ∀ n ∈ List.range' 48 10, isIdentifierStart (Char.ofNat n) = false := by
  decide

/-- No identifier starts with a digit. -/
theorem isDigit_of_isIdentifierStart {c : Char} (h : isIdentifierStart c = true)
    : c.isDigit = false := by
  rw [← Bool.not_eq_true]
  intro hdigit
  obtain ⟨hzero, hnine⟩ := Char.isDigit_iff_toNat.mp hdigit
  have hten : c.toNat ∈ List.range' 48 10 :=
    List.mem_range'_1.mpr ⟨hzero, Nat.lt_succ_of_le hnine⟩
  have hnone := isIdentifierStart_digit c.toNat hten
  rw [Char.ofNat_toNat, h] at hnone
  exact nomatch hnone

/-- So no number begins where an identifier does. -/
theorem behindNumber?_eq_none {c : Char} {rest : List Char}
    (h : isIdentifierStart c = true)
    : behindNumber? (c :: rest) = none := by
  have hdigit := isDigit_of_isIdentifierStart h
  have hfloat : behindFloatDigits? (c :: rest) = none := by
    simp [behindFloatDigits?, hdigit]
  have hint : behindIntDigits? (c :: rest) = none := by
    have hzero : c ≠ '0' := by
      rintro rfl
      exact nomatch hdigit
    by_cases hunderscore : c = '_'
    · simp [behindIntDigits?, hunderscore, List.span_eq_takeWhile_dropWhile]
    · simp [behindIntDigits?, hzero, hunderscore, hdigit, List.span_eq_takeWhile_dropWhile]
  simp [behindNumber?, hfloat, hint]

/-- Each start of a literal that no identifier has holds a sign. -/
theorem exists_sign_of_literalStarts
    : ∀ front ∈ literalStarts, ∃ sign ∈ front, sign ∈ signs := by
  have hsigns : literalStarts.all (fun front => front.any (signs.contains ·)) = true := by
    decide
  intro front hfront
  obtain ⟨sign, hsign, hlisted⟩ :=
    List.any_eq_true.mp (List.all_eq_true.mp hsigns front hfront)
  exact ⟨sign, hsign, List.contains_iff_mem.mp hlisted⟩

theorem literalStarts_any_eq_false (h : ∀ c ∈ cs, isIdentifierContinue c = true)
    : literalStarts.any (starts · cs) = false := by
  rw [List.any_eq_false]
  intro front hfront
  rw [starts, after?_eq_none h (exists_sign_of_literalStarts front hfront)]
  exact Bool.false_ne_true

/-- The characters of an identifier are read as its name up to their end. -/
theorem plainIdent?_of_isIdentifier (h : isIdentifier cs = true)
    : plainIdent? cs = some (String.ofList cs, []) := by
  cases cs with
  | nil => exact nomatch h
  | cons first rest =>
      simp only [isIdentifier, Bool.and_eq_true, List.all_eq_true] at h
      rw [plainIdent?, if_pos h.1, List.takeWhile_eq_self_iff.mpr h.2,
        List.dropWhile_eq_nil_iff.mpr h.2]

/-- An identifier is read as such up to its end. -/
theorem ident?_of_isIdentifier (h : isIdentifier cs = true)
    : ident? cs = some (.plain (String.ofList cs), []) := by
  have hchars := isIdentifierContinue_of_mem h
  unfold ident?
  split
  · -- a raw identifier has a sign in it
    exact absurd rfl (ne_sign (hchars '#' (by simp)) (by decide))
  · rw [plainIdent?_of_isIdentifier h]
    rfl

/-- What is written for an identifier is read as this identifier, be it raw or not. -/
theorem ident?_text {i : Ident} (h : isIdentifier i.name.toList = true)
    (hraw : i.raw = true → i.name ∉ neverRaw)
    : ident? i.text.toList = some (i, []) := by
  obtain ⟨raw, name⟩ := i
  cases raw with
  | false =>
      have hname := ident?_of_isIdentifier h
      rwa [String.ofList_toList] at hname
  | true =>
      have htext : (Ident.mk true name).text.toList = 'r' :: '#' :: name.toList := by
        rw [Ident.text, if_pos rfl, String.toList_append]
        rfl
      have hname := plainIdent?_of_isIdentifier h
      rw [String.ofList_toList] at hname
      simp only [htext, ident?, hname, if_neg (hraw rfl)]

/-- It is the one token there: none of the literals and marks that are tried first. -/
theorem leaf?_of_isIdentifier (h : isIdentifier cs = true)
    : leaf? cs = some (.ident (.plain (String.ofList cs)), []) := by
  have hchars := isIdentifierContinue_of_mem h
  have hident := ident?_of_isIdentifier h
  cases cs with
  | nil => exact nomatch h
  | cons first rest =>
      have hstart : isIdentifierStart first = true := (Bool.and_eq_true_iff.mp h).1
      have hliteral : behindLiteral? (first :: rest) = none := by
        rw [behindLiteral?, behindText?_eq_none hchars, behindNumber?_eq_none hstart]
        rfl
      have hmark : mark? (first :: rest) = none := mark?_eq_none (hchars first (by simp))
      simp only [leaf?, hliteral, hmark, literalStarts_any_eq_false hchars, hident]
      rfl

end Literals

-----------------------------------------------------------------------------------------
-- Texts that are one identifier, and texts that are none
-----------------------------------------------------------------------------------------

section Texts

variable {first : Char} {rest : List Char}

/-- Without a byte-order mark in front, the trees of a text are those of its tokens. -/
theorem trees?_cons (h : first ≠ '\uFEFF')
    : trees? (first :: rest)
      = (lexemes? (rest.length + 2) 0 (first :: rest)).bind (nest? [] []) := by
  unfold trees?
  split
  · next heq => exact absurd (List.cons.inj heq).1 h
  · rfl

/-- The tokens of a text begin with those that are next, if no blanks stand in front. -/
theorem lexemes?_cons {count place : Nat}
    (h : skipBlanks (rest.length + 2) (first :: rest) = first :: rest)
    {kinds : List Lexeme.Kind} {behind : List Char}
    (hnext : next? (first :: rest) = some (kinds, behind))
    : ∃ span,
        lexemes? (count + 1) place (first :: rest)
          = (lexemes? count span.stop behind).map fun others =>
            kinds.map (⟨·, span⟩) ++ others := by
  have hsome : first :: rest ≠ [] := nofun
  have hskip : skipBlanks ((first :: rest).length + 1) (first :: rest) = first :: rest := h
  let start := place + ((first :: rest).length - (first :: rest).length)
  refine ⟨⟨start, start + ((first :: rest).length - behind.length)⟩, ?_⟩
  simp only [lexemes?, hskip, if_neg hsome, hnext]
  rw [Option.map_eq_bind]
  rfl

/-- An identifier is one identifier: itself. -/
theorem soleIdent?_of_isIdentifier {text : String} (h : isIdentifier text.toList = true)
    : soleIdent? text = some (.plain text) := by
  have hchars := isIdentifierContinue_of_mem h
  have hleaf := leaf?_of_isIdentifier h
  rw [soleIdent?_eq_some]
  cases hcs : text.toList with
  | nil =>
      rw [hcs] at h
      exact nomatch h
  | cons first rest =>
      rw [hcs] at hchars hleaf
      have hfirst := hchars first List.mem_cons_self
      have hnext : next? (first :: rest) = some ([.ident (.plain text)], []) := by
        rw [next?_eq_map_leaf? hfirst, hleaf, ← hcs, String.ofList_toList]
        rfl
      obtain ⟨span, hlexemes⟩ := lexemes?_cons (skipBlanks_eq_self hfirst _) hnext
      refine ⟨span, ?_⟩
      rw [trees?_cons (ne_mark hfirst (by decide) (by decide)), hlexemes, lexemes?_nil]
      rfl

/-- A text that begins with a colon is no identifier: its first token is this mark. -/
theorem soleIdent?_of_isSymbol {text : String} (h : IsSymbol text)
    : soleIdent? text = none := by
  obtain ⟨rest, hcs⟩ := List.head?_eq_some_iff.mp h
  have hnext : next? (':' :: rest) = some ([.mark ':' (isMark rest)], rest) := rfl
  obtain ⟨span, hlexemes⟩ := lexemes?_cons rfl hnext
  cases hsole : soleIdent? text with
  | none => rfl
  | some ident =>
      obtain ⟨place, htrees⟩ := soleIdent?_eq_some.mp hsole
      rw [hcs, trees?_cons (by decide), hlexemes] at htrees
      obtain ⟨lexemes, hmap, hnest⟩ := Option.bind_eq_some_iff.mp htrees
      obtain ⟨others, _, rfl⟩ := Option.map_eq_some_iff.mp hmap
      have hfront : (outermost [] [Tree.mark ':' (isMark rest) span]).reverse
          <+: [Tree.ident ident place] :=
        outermost_isPrefix hnest
      exact nomatch (List.cons_prefix_cons.mp hfront).1

end Texts

-----------------------------------------------------------------------------------------
-- The identifiers among the tokens of a text
-----------------------------------------------------------------------------------------

/-- A token in which all identifiers are spelled like identifiers, inside brackets too. -/
inductive Tree.Spelled : Tree → Prop
  | ident {found : Ident} {span : Span} (spelled : isIdentifier found.name.toList = true)
    : Spelled (.ident found span)
  | mark {c : Char} {joined : Bool} {span : Span} : Spelled (.mark c joined span)
  | literal {text : List Char} {span : Span} : Spelled (.literal text span)
  | group {delimiter : Delimiter} {content : List Tree} {opening closing : Span}
    (inner : ∀ tree ∈ content, tree.Spelled)
    : Spelled (.group delimiter content opening closing)

/-- A flat token that is spelled like an identifier if it is one. -/
def Lexeme.Kind.Spelled (kind : Lexeme.Kind) : Prop :=
  ∀ found, kind = .ident found → isIdentifier found.name.toList = true

/-- What is read as an identifier without `r#` is one. -/
theorem isIdentifier_of_plainIdent? {cs behind : List Char} {name : String}
    (h : plainIdent? cs = some (name, behind))
    : isIdentifier name.toList = true := by
  unfold plainIdent? at h
  split at h
  · exact nomatch h
  · next first rest =>
    split at h
    · next hstart =>
      obtain ⟨rfl, _⟩ := Prod.mk.inj (Option.some.inj h)
      rw [String.toList_ofList, isIdentifier, hstart, Bool.true_and]
      exact List.all_takeWhile
    · exact nomatch h

theorem isIdentifier_of_ident? {cs behind : List Char} {found : Ident}
    (h : ident? cs = some (found, behind))
    : isIdentifier found.name.toList = true := by
  unfold ident? at h
  split at h
  · split at h
    · next name behind hplain =>
      split at h
      · exact nomatch h
      · obtain ⟨rfl, _⟩ := Prod.mk.inj (Option.some.inj h)
        exact isIdentifier_of_plainIdent? hplain
    · exact nomatch h
  · obtain ⟨⟨name, rest⟩, hplain, heq⟩ := Option.map_eq_some_iff.mp h
    obtain ⟨rfl, _⟩ := Prod.mk.inj heq
    exact isIdentifier_of_plainIdent? hplain

theorem spelled_of_mark? {cs behind : List Char} {kind : Lexeme.Kind}
    (h : mark? cs = some (kind, behind))
    : kind.Spelled := by
  rintro found rfl
  unfold mark? at h
  split at h
  · exact nomatch h
  · split at h
    · exact nomatch h
    · split at h <;> exact nomatch h
  · split at h <;> exact nomatch h

theorem spelled_of_bracket? {c : Char} {kind : Lexeme.Kind} (h : bracket? c = some kind)
    : kind.Spelled := by
  rintro found rfl
  unfold bracket? at h
  split at h <;> exact nomatch h

theorem spelled_of_leaf? {cs behind : List Char} {kind : Lexeme.Kind}
    (h : leaf? cs = some (kind, behind))
    : kind.Spelled := by
  unfold leaf? at h
  split at h
  · rintro found rfl
    exact nomatch h
  · split at h
    · next hmark =>
      obtain rfl := Option.some.inj h
      exact spelled_of_mark? hmark
    · split at h
      · exact nomatch h
      · obtain ⟨⟨found, rest⟩, hident, heq⟩ := Option.map_eq_some_iff.mp h
        obtain ⟨rfl, _⟩ := Prod.mk.inj heq
        intro other hother
        cases hother
        exact isIdentifier_of_ident? hident

/-- The next tokens are spelled like identifiers where they are some. A documentation comment
stands for the identifier `doc`.
-/
theorem spelled_of_next? {cs behind : List Char} {kinds : List Lexeme.Kind}
    (h : next? cs = some (kinds, behind))
    : ∀ kind ∈ kinds, kind.Spelled := by
  unfold next? at h
  split at h
  · next s inner rest hdocumentation =>
    split at h
    · exact nomatch h
    · obtain ⟨rfl, _⟩ := Prod.mk.inj (Option.some.inj h)
      rintro kind hkind found rfl
      have hdoc : found = .plain "doc" := by
        cases inner <;> simpa [documentationTokens] using hkind
      rw [hdoc]
      decide
  · split at h
    · obtain ⟨rfl, _⟩ := Prod.mk.inj (Option.some.inj h)
      rintro kind hkind found rfl
      exact nomatch List.mem_singleton.mp hkind
    · split at h
      · next bracket hbracket =>
        obtain ⟨rfl, _⟩ := Prod.mk.inj (Option.some.inj h)
        obtain ⟨c, _, hbracket⟩ := Option.bind_eq_some_iff.mp hbracket
        intro kind hkind
        obtain rfl := List.mem_singleton.mp hkind
        exact spelled_of_bracket? hbracket
      · obtain ⟨⟨kind, rest⟩, hleaf, heq⟩ := Option.map_eq_some_iff.mp h
        obtain ⟨rfl, _⟩ := Prod.mk.inj heq
        intro other hother
        obtain rfl := List.mem_singleton.mp hother
        exact spelled_of_leaf? hleaf

/-- All tokens of a text are spelled so, by induction on their number. -/
theorem spelled_of_lexemes? {count place : Nat} {cs : List Char} {lexemes : List Lexeme}
    (h : lexemes? count place cs = some lexemes)
    : ∀ lexeme ∈ lexemes, lexeme.kind.Spelled := by
  induction count generalizing place cs lexemes with
  | zero =>
      simp only [lexemes?] at h
      split at h
      · obtain rfl := Option.some.inj h
        exact fun _ hmem => absurd hmem List.not_mem_nil
      · cases h
  | succ count ih =>
      simp only [lexemes?] at h
      split at h
      · obtain rfl := Option.some.inj h
        exact fun _ hmem => absurd hmem List.not_mem_nil
      · obtain ⟨⟨kinds, rest⟩, hnext, h⟩ := Option.bind_eq_some_iff.mp h
        obtain ⟨others, hothers, heq⟩ := Option.bind_eq_some_iff.mp h
        obtain rfl := Option.some.inj heq
        refine List.forall_mem_append.mpr ⟨?_, ih hothers⟩
        exact List.forall_mem_map.mpr (spelled_of_next? hnext)

/-- Trees of such tokens are spelled so, by induction on the tokens. -/
theorem spelled_of_nest? {frames : List Frame} {done : List Tree} {lexemes : List Lexeme}
    {trees : List Tree} (h : nest? frames done lexemes = some trees)
    (hframes : ∀ frame ∈ frames, ∀ tree ∈ frame.before, tree.Spelled)
    (hdone : ∀ tree ∈ done, tree.Spelled)
    (hlexemes : ∀ lexeme ∈ lexemes, lexeme.kind.Spelled)
    : ∀ tree ∈ trees, tree.Spelled := by
  fun_induction nest? frames done lexemes with
  | case1 done =>
      obtain rfl := Option.some.inj h
      exact fun tree htree => hdone tree (List.mem_reverse.mp htree)
  | case2 => cases h
  | case3 frames done found span rest ih =>
      obtain ⟨hfirst, hrest⟩ := List.forall_mem_cons.mp hlexemes
      exact ih h hframes (List.forall_mem_cons.mpr ⟨.ident (hfirst found rfl), hdone⟩) hrest
  | case4 frames done c joined span rest ih =>
      have hrest := (List.forall_mem_cons.mp hlexemes).2
      exact ih h hframes (List.forall_mem_cons.mpr ⟨.mark, hdone⟩) hrest
  | case5 frames done text span rest ih =>
      have hrest := (List.forall_mem_cons.mp hlexemes).2
      exact ih h hframes (List.forall_mem_cons.mpr ⟨.literal, hdone⟩) hrest
  | case6 frames done delimiter span rest ih =>
      have hrest := (List.forall_mem_cons.mp hlexemes).2
      have hnone : ∀ tree ∈ ([] : List Tree), tree.Spelled :=
        fun _ hmem => absurd hmem List.not_mem_nil
      exact ih h (List.forall_mem_cons.mpr ⟨hdone, hframes⟩) hnone hrest
  | case7 => cases h
  | case8 frame frames done span rest ih =>
      obtain ⟨hbefore, hothers⟩ := List.forall_mem_cons.mp hframes
      have hrest := (List.forall_mem_cons.mp hlexemes).2
      have hgroup : (Tree.group frame.delimiter done.reverse frame.opening span).Spelled :=
        .group fun tree htree => hdone tree (List.mem_reverse.mp htree)
      exact ih h hothers (List.forall_mem_cons.mpr ⟨hgroup, hbefore⟩) hrest
  | case9 => cases h

/-- In the trees of a text all identifiers are spelled like identifiers. -/
theorem spelled_of_trees? {source : List Char} {trees : List Tree}
    (h : trees? source = some trees)
    : ∀ tree ∈ trees, tree.Spelled := by
  have hread : ∃ count place cs lexemes,
      lexemes? count place cs = some lexemes ∧ nest? [] [] lexemes = some trees := by
    unfold trees? at h
    split at h
    · obtain ⟨lexemes, hlexemes, hnest⟩ := Option.bind_eq_some_iff.mp h
      exact ⟨_, _, _, lexemes, hlexemes, hnest⟩
    · obtain ⟨lexemes, hlexemes, hnest⟩ := Option.bind_eq_some_iff.mp h
      exact ⟨_, _, _, lexemes, hlexemes, hnest⟩
  obtain ⟨count, place, cs, lexemes, hlexemes, hnest⟩ := hread
  exact spelled_of_nest? hnest nofun nofun (spelled_of_lexemes? hlexemes)

end DeclaredSettings.Derive
