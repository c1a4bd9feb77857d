import DeclaredSettings.Derive.Declaration
import DeclaredSettings.Proofs.Outcome.Sequencing

/-! The paths in front of options: identifiers with two joined colons between them, and maybe
in front of the first. In front of any tokens stands a longest path, which is what is read,
or the place is found where an identifier should be.
-/

namespace DeclaredSettings.Derive

open Outcome

-----------------------------------------------------------------------------------------
-- Paths and what is none
-----------------------------------------------------------------------------------------

/-- Tokens that begin with two joined colons, and what stands behind these. -/
inductive BehindColons (behind : List Tree) : List Tree → Prop
  | mk {first second : Span} {joined : Bool}
    : BehindColons behind (.mark ':' true first :: .mark ':' joined second :: behind)

/-- Whether a path that stands in front of some tokens goes on with them. -/
def GoesOn (tokens : List Tree) : Prop :=
  ∃ behind, BehindColons behind tokens

/-- The segments of a path behind one at `place`, and the place of the last of all. -/
inductive Segments : Span → List Tree → Span → Prop
  | nil {place : Span} : Segments place [] place
  | cons {place next last : Span} {ident : Ident} {tokens others : List Tree}
    (colons : BehindColons (.ident ident next :: others) tokens)
    (segments : Segments next others last)
    : Segments place tokens last

/-- The tokens of a path. It is a name if it is one identifier. -/
inductive IsPath : List Tree → OptionPath → Prop
  | relative {ident : Ident} {first last : Span} {tokens : List Tree}
    (segments : Segments first tokens last)
    : IsPath (.ident ident first :: tokens)
        ⟨if tokens.isEmpty then some ident else none, first.upTo last⟩
  | absolute {ident : Ident} {first last : Span} {tokens others : List Tree}
    (colons : BehindColons (.ident ident first :: others) tokens)
    (segments : Segments first others last)
    : IsPath tokens ⟨none, first.upTo last⟩

/-- Whether some tokens do not begin with an identifier. -/
def NoIdent (tokens : List Tree) : Prop :=
  ∀ ident span others, tokens ≠ .ident ident span :: others

theorem exists_ident_of_not_noIdent {tokens : List Tree} (h : ¬ NoIdent tokens)
    : ∃ ident span others, tokens = .ident ident span :: others := by
  simpa [NoIdent] using h

/-- Why no path begins with some tokens. -/
def noPathCause (tokens : List Tree) : Cause :=
  if tokens.isEmpty then .optionExpected
  else if Sign.literal.isAt tokens then .literalForOption
  else .tokenForOption

/-- What is wrong where a path should be: there is no identifier to begin with, or none
behind two colons.
-/
inductive PathFault (closing : Span) : List Tree → Refusal → Prop
  | relative {tokens : List Tree} (noIdent : NoIdent tokens) (noColons : ¬ GoesOn tokens)
    : PathFault closing tokens (.fault (noPathCause tokens) (placeOf closing tokens))
  | absolute {tokens behind : List Tree} (colons : BehindColons behind tokens)
    (noIdent : NoIdent behind)
    : PathFault closing tokens (.fault (noPathCause behind) (placeOf closing behind))
  | segment {front tokens behind : List Tree} {path : OptionPath} (path : IsPath front path)
    (colons : BehindColons behind tokens) (noIdent : NoIdent behind)
    : PathFault closing (front ++ tokens)
        (.fault (.identExpected behind.isEmpty) (placeOf closing behind))

/-- An identifier is a path that is a name. -/
theorem isPath_ident (ident : Ident) (span : Span)
    : IsPath [.ident ident span] ⟨some ident, span⟩ :=
  .relative .nil

/-- A path that is a name is an identifier alone. -/
theorem IsPath.eq_ident {tokens : List Tree} {path : OptionPath} (h : IsPath tokens path)
    {name : String} (hname : path.is name = true)
    : ∃ span, tokens = [.ident (.plain name) span] := by
  have hsole := eq_of_beq hname
  cases h with
  | @relative ident first last tokens segments =>
      dsimp only at hsole
      split at hsole
      · next hempty =>
        obtain rfl := List.isEmpty_iff.mp hempty
        obtain rfl := Option.some.inj hsole
        exact ⟨first, rfl⟩
      · exact nomatch hsole
  | absolute => exact nomatch hsole

theorem OptionPath.is_word (name : String) (place : Span)
    : OptionPath.is ⟨some (.plain name), place⟩ name = true :=
  beq_self_eq_true _

theorem OptionPath.is_other {name other : String} (h : other ≠ name) (place : Span)
    : ¬ OptionPath.is ⟨some (.plain other), place⟩ name = true := by
  intro hname
  obtain ⟨⟩ := Option.some.inj (eq_of_beq hname)
  exact h rfl

-----------------------------------------------------------------------------------------
-- Reading them
-----------------------------------------------------------------------------------------

/-- A mark alone is seen in front of just those tokens that begin with it, joined or not. -/
theorem exists_mark_of_areMarks {c : Char} {tokens : List Tree}
    (h : Sign.areMarks [c] tokens = true)
    : ∃ joined span behind, tokens = .mark c joined span :: behind := by
  cases tokens with
  | nil => exact absurd h Bool.false_ne_true
  | cons first behind =>
      cases first with
      | mark d joined span =>
          have hmark : (c == d) = true := by cases joined <;> exact h
          exact ⟨joined, span, behind, by rw [eq_of_beq hmark]⟩
      | ident | literal | group => exact absurd h Bool.false_ne_true

/-- Two joined colons are seen in front of just those tokens that begin with them. -/
theorem goesOn_of_isAt {tokens : List Tree} (h : (Sign.mark "::").isAt tokens = true)
    : GoesOn tokens := by
  cases tokens with
  | nil => exact absurd h Bool.false_ne_true
  | cons first behind =>
      cases first with
      | mark c joined span =>
          cases joined with
          | false => exact absurd h Bool.false_ne_true
          | true =>
              obtain ⟨hcolon, hsecond⟩ := Bool.and_eq_true_iff.mp h
              obtain ⟨_, _, rest, rfl⟩ := exists_mark_of_areMarks hsecond
              rw [← eq_of_beq hcolon]
              exact ⟨rest, .mk⟩
      | ident | literal | group => exact absurd h Bool.false_ne_true

theorem colons?_eq_some_iff {tokens behind : List Tree}
    : colons? tokens = some behind ↔ BehindColons behind tokens := by
  constructor
  · intro h
    unfold colons? at h
    split at h
    · next hmarks =>
      obtain ⟨found, ⟨⟩⟩ := goesOn_of_isAt hmarks
      obtain rfl := Option.some.inj h
      exact .mk
    · exact nomatch h
  · rintro ⟨⟩
    rfl

theorem colons?_eq_none {tokens : List Tree} (h : ¬ GoesOn tokens)
    : colons? tokens = none := by
  cases hcolons : colons? tokens with
  | none => rfl
  | some behind => exact absurd ⟨behind, colons?_eq_some_iff.mp hcolons⟩ h

/-- The segments that stand in front of tokens with which the path does not go on are read
as such, by induction on them.
-/
theorem Segments.read {place last closing : Span} {tokens rest : List Tree}
    (h : Segments place tokens last) (hend : ¬ GoesOn rest) {count : Nat}
    (hcount : tokens.length ≤ count)
    : moreSegments closing count place (tokens ++ rest) = .ok (last, rest) := by
  induction h generalizing count with
  | nil =>
      cases count with
      | zero => rfl
      | succ count => rw [List.nil_append, moreSegments, colons?_eq_none hend]
  | cons colons _ ih =>
      cases colons with
      | mk =>
          cases count with
          | zero => exact absurd hcount (Nat.not_succ_le_zero _)
          | succ count =>
              simp only [List.length_cons] at hcount
              exact ih (by omega)

/-- Where an identifier is missing behind two colons they are refused, by the same
induction.
-/
theorem Segments.refused {place last closing : Span} {tokens rest behind : List Tree}
    (h : Segments place tokens last) (hcolons : BehindColons behind rest)
    (hno : NoIdent behind) {count : Nat} (hcount : (tokens ++ rest).length ≤ count)
    : moreSegments closing count place (tokens ++ rest)
      = .error (.fault (.identExpected behind.isEmpty) (placeOf closing behind)) := by
  induction h generalizing count with
  | nil =>
      cases count with
      | zero =>
          cases hcolons
          exact absurd hcount (Nat.not_succ_le_zero _)
      | succ count =>
          rw [List.nil_append, moreSegments, colons?_eq_some_iff.mpr hcolons]
          split
          · next heq => exact nomatch heq
          · next heq =>
            obtain rfl := Option.some.inj heq
            exact absurd rfl (hno _ _ _)
          · next heq => rw [Option.some.inj heq]
  | cons colons _ ih =>
      cases colons with
      | mk =>
          cases count with
          | zero => exact absurd hcount (Nat.not_succ_le_zero _)
          | succ count =>
              simp only [List.cons_append, List.length_cons] at hcount
              exact ih (by omega)

/-- Any tokens begin with segments of a path, behind which the path does not go on or an
identifier is missing; by recursion on the tokens.
-/
theorem exists_segments (place : Span) (tokens : List Tree)
    : ∃ front rest last,
        tokens = front ++ rest
        ∧ Segments place front last
        ∧ (¬ GoesOn rest ∨ ∃ behind, BehindColons behind rest ∧ NoIdent behind) := by
  by_cases hon : GoesOn tokens
  · obtain ⟨behind, hcolons⟩ := hon
    by_cases hident : NoIdent behind
    · exact ⟨[], tokens, place, rfl, .nil, .inr ⟨behind, hcolons, hident⟩⟩
    · obtain ⟨ident, next, others, rfl⟩ := exists_ident_of_not_noIdent hident
      obtain ⟨front, rest, last, rfl, hsegments, hrest⟩ := exists_segments next others
      cases hcolons with
      | mk => exact ⟨_ :: _ :: _ :: front, rest, last, rfl, .cons .mk hsegments, hrest⟩
  · exact ⟨[], tokens, place, rfl, .nil, .inl hon⟩
termination_by tokens.length
decreasing_by
  cases hcolons
  simp only [List.length_cons]
  omega

/-- The path that begins with an identifier: it is read up to the end of its segments. -/
theorem optionPath_ident (closing : Span) (ident : Ident) (first : Span) (tokens : List Tree)
    : optionPath closing (.ident ident first :: tokens)
      = moreSegments closing tokens.length first tokens >>= fun (last, rest) =>
          .ok (⟨if rest.length == tokens.length then some ident else none, first.upTo last⟩,
            rest) :=
  rfl

/-- Behind two colons it is read in the same way, but it is no name. -/
theorem optionPath_colons {closing : Span} {ident : Ident} {first : Span}
    {tokens behind : List Tree} (h : BehindColons (.ident ident first :: behind) tokens)
    : optionPath closing tokens
      = moreSegments closing behind.length first behind >>= fun (last, rest) =>
          .ok (⟨none, first.upTo last⟩, rest) := by
  cases h
  rfl

/-- A path in front of tokens with which it does not go on is read as it is. -/
theorem IsPath.read {closing : Span} {tokens rest : List Tree} {path : OptionPath}
    (h : IsPath tokens path) (hend : ¬ GoesOn rest)
    : optionPath closing (tokens ++ rest) = .ok (path, rest) := by
  have hlength : ∀ {front : List Tree}, front.length ≤ (front ++ rest).length := by simp
  cases h with
  | @relative ident first last tokens segments =>
      rw [List.cons_append, optionPath_ident, segments.read hend hlength]
      have hsole : (rest.length == (tokens ++ rest).length) = tokens.isEmpty := by
        cases tokens with
        | nil => simp
        | cons token tokens =>
            simp only [List.length_append, List.length_cons, List.isEmpty_cons,
              beq_eq_false_iff_ne]
            omega
      simp only [bind, Except.bind, hsole]
  | @absolute ident first last tokens others colons segments =>
      cases colons with
      | mk =>
          rw [List.cons_append, List.cons_append, List.cons_append, optionPath_colons .mk,
            segments.read hend hlength]
          rfl

/-- What is no path is refused as such. -/
theorem optionPath_of_fault {closing : Span} {tokens : List Tree} {refusal : Refusal}
    (h : PathFault closing tokens refusal)
    : optionPath closing tokens = .error refusal := by
  cases h with
  | relative noIdent noColons =>
      unfold optionPath
      rw [colons?_eq_none noColons]
      dsimp only
      split
      · exact absurd rfl (noIdent _ _ _)
      · rfl
  | absolute colons noIdent =>
      unfold optionPath
      rw [colons?_eq_some_iff.mpr colons]
      dsimp only
      split
      · exact absurd rfl (noIdent _ _ _)
      · rfl
  | @segment front tokens behind path isPath colons noIdent =>
      cases isPath with
      | @relative ident first last others segments =>
          rw [List.cons_append, optionPath_ident,
            segments.refused colons noIdent (Nat.le_refl _)]
          rfl
      | @absolute ident first last front others ahead segments =>
          cases ahead with
          | mk =>
              rw [List.cons_append, List.cons_append, List.cons_append,
                optionPath_colons .mk, segments.refused colons noIdent (Nat.le_refl _)]
              rfl

/-- Any tokens begin with a path that does not go on, or with what is none. -/
theorem exists_path_or_fault (closing : Span) (tokens : List Tree)
    : (∃ front rest path, tokens = front ++ rest ∧ IsPath front path ∧ ¬ GoesOn rest)
      ∨ ∃ refusal, PathFault closing tokens refusal := by
  -- behind the first identifier the path ends or breaks off
  have hbehind : ∀ (lead : List Tree) {first : Span} (others : List Tree)
      (hpath : ∀ front last, Segments first front last → ∃ path, IsPath (lead ++ front) path),
      (∃ front rest path,
          lead ++ others = front ++ rest ∧ IsPath front path ∧ ¬ GoesOn rest)
        ∨ ∃ refusal, PathFault closing (lead ++ others) refusal := by
    intro lead first others hpath
    obtain ⟨front, rest, last, rfl, hsegments, hrest⟩ := exists_segments first others
    obtain ⟨path, hpath⟩ := hpath front last hsegments
    rw [← List.append_assoc]
    rcases hrest with hend | ⟨behind, hcolons, hno⟩
    · exact .inl ⟨_, rest, path, rfl, hpath, hend⟩
    · exact .inr ⟨_, .segment hpath hcolons hno⟩
  by_cases hon : GoesOn tokens
  · obtain ⟨behind, hcolons⟩ := hon
    by_cases hident : NoIdent behind
    · exact .inr ⟨_, .absolute hcolons hident⟩
    · obtain ⟨ident, first, others, rfl⟩ := exists_ident_of_not_noIdent hident
      cases hcolons with
      | mk => exact hbehind [_, _, _] others fun _ _ h => ⟨_, .absolute .mk h⟩
  · by_cases hident : NoIdent tokens
    · exact .inr ⟨_, .relative hident hon⟩
    · obtain ⟨ident, first, others, rfl⟩ := exists_ident_of_not_noIdent hident
      exact hbehind [_] others fun _ _ h => ⟨_, .relative h⟩

end DeclaredSettings.Derive
