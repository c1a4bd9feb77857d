import DeclaredSettings.Proofs.Derive.KeyLists

/-! The lists of options in the `dsl` attributes of a struct or a field. What an option is,
which options fit behind others and what is reported of one that is none depends on whose
attributes they are; how they are gone through does not. So it is shown here once that the
attributes are accepted if and only if all their options are such and fit, and that otherwise
the first fault in them is reported.
-/

namespace DeclaredSettings.Derive

open Outcome

-----------------------------------------------------------------------------------------
-- Kinds of options
-----------------------------------------------------------------------------------------

/-- What a token marks a field as, if it is an option. -/
def Tree.mark? : Tree → Option Role
  | .ident found _ =>
    if found = .plain "settings" then some .settings
    else if found = .plain "base" then some .base
    else none
  | _ => none

/-- The marks among some options. -/
def marksOf (tokens : List Tree) : List Role :=
  tokens.filterMap Tree.mark?

theorem marksOf_nil : marksOf [] = [] :=
  rfl

theorem marksOf_append (front back : List Tree)
    : marksOf (front ++ back) = marksOf front ++ marksOf back :=
  List.filterMap_append

theorem marksOf_comma (joined : Bool) (span : Span) (behind : List Tree)
    : marksOf (.mark ',' joined span :: behind) = marksOf behind :=
  rfl

theorem BehindComma.marksOf_eq {behind rest : List Tree} (h : BehindComma behind rest)
    : marksOf rest = marksOf behind := by
  cases h with
  | nil => rfl
  | comma => rfl

/-- What the `dsl` attributes of a struct or a field may hold. -/
structure OptionKind where
  /-- The tokens of one option. -/
  IsOption : List Tree → Prop
  /-- Marks that may be made together. -/
  Fit : List Role → Prop
  /-- What is reported of tokens in front of the end at `closing`, behind options that make
  some marks, if these tokens do not begin with an option that fits, and a comma or the end.
  -/
  Fault : (closing : Span) → List Role → List Tree → Refusal → Prop
  fit_nil : Fit []
  fit_front {front back : List Role} : Fit (front ++ back) → Fit front

namespace OptionKind

variable (kind : OptionKind)

/-- Attributes whose options are all such and fit together. -/
structure WellFormed (attributes : List Attribute) : Prop where
  lists : ∀ a ∈ attributes,
    a.name = some (.plain "dsl")
    → ∃ tokens closing, a.content = .list tokens closing ∧ CommaList kind.IsOption tokens
  fit : kind.Fit (marksOf (attributes.flatMap Attribute.options))

/-- What is reported of one `dsl` attribute behind options that make some marks: that it has
no list of options, or the fault in this list behind the options that fit.
-/
inductive AttributeFault (marks : List Role) (a : Attribute) : Refusal → Prop
  | missing (content : a.content = .none)
    : AttributeFault marks a (.fault .optionsMissing a.span)
  | value {mark : Span} (content : a.content = .value mark)
    : AttributeFault marks a (.fault .optionsNotInParentheses mark)
  | option {front tokens : List Tree} {closing : Span} {refusal : Refusal}
    (content : a.content = .list (front ++ tokens) closing)
    (options : CommaEnded kind.IsOption front) (fit : kind.Fit (marks ++ marksOf front))
    (more : tokens ≠ []) (fault : kind.Fault closing (marks ++ marksOf front) tokens refusal)
    : AttributeFault marks a refusal

/-- The first fault in some attributes: those in front of the one that has it are well
formed.
-/
def FirstFault (attributes : List Attribute) (refusal : Refusal) : Prop :=
  ∃ front a back,
    attributes = front ++ a :: back
    ∧ kind.WellFormed front
    ∧ a.name = some (.plain "dsl")
    ∧ kind.AttributeFault (marksOf (front.flatMap Attribute.options)) a refusal

variable {kind} {attributes front : List Attribute} {a : Attribute}

theorem WellFormed.of_concat (h : kind.WellFormed (front ++ [a]))
    : kind.WellFormed front where
  lists := fun earlier hearlier => h.lists earlier (List.mem_append_left _ hearlier)
  fit := by
    have hfit := h.fit
    rw [List.flatMap_append, marksOf_append] at hfit
    exact kind.fit_front hfit

/-- Well-formed attributes are so with one more whose options fit behind theirs. -/
theorem WellFormed.concat (h : kind.WellFormed front)
    (hlist : a.name = some (.plain "dsl")
      → ∃ tokens closing, a.content = .list tokens closing ∧ CommaList kind.IsOption tokens)
    (hfit : kind.Fit (marksOf (front.flatMap Attribute.options) ++ marksOf a.options))
    : kind.WellFormed (front ++ [a]) where
  lists := fun other hother => by
    rcases List.mem_append.mp hother with hfront | hlast
    · exact h.lists other hfront
    · rwa [List.mem_singleton.mp hlast]
  fit := by rwa [List.flatMap_append, List.flatMap_singleton, marksOf_append]

theorem FirstFault.append {refusal : Refusal} (h : kind.FirstFault attributes refusal)
    (more : List Attribute)
    : kind.FirstFault (attributes ++ more) refusal := by
  obtain ⟨front, a, back, rfl, hfront, hdsl, hfault⟩ := h
  refine ⟨front, a, back ++ more, ?_, hfront, hdsl, hfault⟩
  rw [List.append_assoc, List.cons_append]

end OptionKind

-----------------------------------------------------------------------------------------
-- One option after the other
-----------------------------------------------------------------------------------------

section

variable {σ : Type}

/-- Takes the comma behind an option, if the tokens do not end. -/
def pastComma (next : σ) : List Tree → Except Refusal (σ × List Tree)
  | [] => .ok (next, [])
  | .mark ',' _ _ :: rest => .ok (next, rest)
  | token :: _ => .error (.fault .commaExpected token.span)

theorem pastComma_eq_ok {next : σ} {rest behind : List Tree} (h : BehindComma behind rest)
    : pastComma next rest = .ok (next, behind) := by
  cases h with
  | nil => rfl
  | comma => rfl

theorem pastComma_eq_error {next : σ} {token : Tree} (h : NoComma token) (rest : List Tree)
    : pastComma next (token :: rest) = .error (.fault .commaExpected token.span) := by
  unfold pastComma
  split
  · next heq => exact nomatch heq
  · next heq => exact absurd (List.cons.inj heq).1 (h _ _)
  · next heq => rw [(List.cons.inj heq).1]

/-- Takes the next option, and the comma behind it. -/
def nextOption (closing : Span)
    (option : σ → OptionPath → List Tree → Except Refusal (σ × List Tree))
    (state : σ) (tokens : List Tree) : Except Refusal (σ × List Tree) := do
  let (path, behind) ← optionPath closing tokens
  let (next, rest) ← option state path behind
  pastComma next rest

variable {closing : Span}
  {option : σ → OptionPath → List Tree → Except Refusal (σ × List Tree)}

/-- Where no path begins no option is taken. -/
theorem nextOption_of_pathFault {state : σ} {tokens : List Tree} {refusal : Refusal}
    (h : PathFault closing tokens refusal)
    : nextOption closing option state tokens = .error refusal := by
  rw [nextOption, optionPath_of_fault h]
  rfl

/-- Behind a path the option is taken, and the comma behind it. -/
theorem nextOption_of_isPath {state : σ} {front rest : List Tree} {path : OptionPath}
    (h : IsPath front path) (hends : ¬ GoesOn rest)
    : nextOption closing option state (front ++ rest)
      = option state path rest >>= fun (next, rest) => pastComma next rest := by
  rw [nextOption, h.read hends]
  rfl

/-- So it is behind a word. -/
theorem nextOption_of_word {state : σ} {word : Ident} {place : Span} {rest : List Tree}
    (hends : ¬ GoesOn rest)
    : nextOption closing option state (.ident word place :: rest)
      = option state ⟨some word, place⟩ rest >>= fun (next, rest) => pastComma next rest :=
  nextOption_of_isPath (isPath_ident word place) hends

theorem foldOptions_nil (count : Nat) (state : σ)
    : foldOptions closing option count state [] = .ok state := by
  cases count with
  | zero => rfl
  | succ count => rfl

/-- Options are gone through by taking the next one. -/
theorem foldOptions_of_ne_nil {count : Nat} {state : σ} {tokens : List Tree}
    (h : tokens ≠ []) (hcount : tokens.length ≤ count)
    : foldOptions closing option count state tokens
      = nextOption closing option state tokens >>= fun (next, rest) =>
          foldOptions closing option (count - 1) next rest := by
  obtain ⟨token, others, rfl⟩ := List.exists_cons_of_ne_nil h
  obtain ⟨count, rfl⟩ := Nat.exists_eq_add_one.mpr (Nat.zero_lt_of_lt hcount)
  rw [Nat.add_sub_cancel]
  unfold nextOption
  conv_lhs => unfold foldOptions
  cases optionPath closing (token :: others) with
  | error refusal => rfl
  | ok found =>
      obtain ⟨path, behind⟩ := found
      simp only [bind, Except.bind]
      cases option state path behind with
      | error refusal => rfl
      | ok taken =>
          obtain ⟨next, rest⟩ := taken
          dsimp only
          split
          · exact (foldOptions_nil count next).symm
          · rfl
          · next hcomma => rw [pastComma_eq_error fun joined span => hcomma joined span]

/-- Attributes are gone through by going through the first of them and then the others; by
induction on the first.
-/
theorem foldAttributes_append
    {option : Span → σ → OptionPath → List Tree → Except Refusal (σ × List Tree)}
    (state : σ) (front back : List Attribute)
    : foldAttributes option state (front ++ back)
      = foldAttributes option state front >>= fun next =>
          foldAttributes option next back := by
  induction front generalizing state with
  | nil => rfl
  | cons first others ih =>
      simp only [List.cons_append, foldAttributes]
      split
      · split
        · rfl
        · rfl
        · simp only [ih, bind_assoc]
      · exact ih state

end

-----------------------------------------------------------------------------------------
-- All options
-----------------------------------------------------------------------------------------

/-- Tokens that begin with an option that fits behind some marks, and behind it have a comma
or their end.
-/
def OptionKind.Begins (kind : OptionKind) (marks : List Role) (tokens : List Tree) : Prop :=
  ∃ item rest behind,
    tokens = item ++ rest
    ∧ kind.IsOption item
    ∧ kind.Fit (marks ++ marksOf item)
    ∧ BehindComma behind rest

/-- How a function takes the options of a kind, while its state holds the marks that are
made. Of the faults that there can be it reports those that are `Told`.
-/
structure OptionKind.Taking (kind : OptionKind) {σ : Type}
    (option : Span → σ → OptionPath → List Tree → Except Refusal (σ × List Tree))
    (initial : σ) (Holds : σ → List Role → Prop) (Told : Refusal → Prop) : Prop where
  starts : Holds initial []
  accepts (closing : Span) {state : σ} {marks : List Role} {tokens rest behind : List Tree}
    : Holds state marks
      → kind.IsOption tokens
      → kind.Fit (marks ++ marksOf tokens)
      → BehindComma behind rest
      → ∃ next,
          nextOption closing (option closing) state (tokens ++ rest) = .ok (next, behind)
          ∧ Holds next (marks ++ marksOf tokens)
  refuses {closing : Span} {state : σ} {marks : List Role} {tokens : List Tree}
    {refusal : Refusal}
    : Holds state marks
      → kind.Fit marks
      → kind.Fault closing marks tokens refusal
      → Told refusal
      → nextOption closing (option closing) state tokens = .error refusal
  decides (closing : Span) {marks : List Role} (tokens : List Tree)
    : kind.Fit marks
      → kind.Begins marks tokens ∨ ∃ refusal, kind.Fault closing marks tokens refusal

namespace OptionKind.Taking

variable {kind : OptionKind} {σ : Type}
  {option : Span → σ → OptionPath → List Tree → Except Refusal (σ × List Tree)}
  {initial : σ} {Holds : σ → List Role → Prop} {Told : Refusal → Prop}
  (taking : kind.Taking option initial Holds Told)

include taking

/-- A list of options that fit is gone through to its end, by induction on the list. -/
theorem accepts_list (closing : Span) {tokens : List Tree}
    (h : CommaList kind.IsOption tokens) {state : σ} {marks : List Role} {count : Nat}
    (hholds : Holds state marks) (hfit : kind.Fit (marks ++ marksOf tokens))
    (hcount : tokens.length ≤ count)
    : ∃ final,
        foldOptions closing (option closing) count state tokens = .ok final
        ∧ Holds final (marks ++ marksOf tokens) := by
  induction h generalizing state marks count with
  | nil =>
      refine ⟨state, foldOptions_nil count state, ?_⟩
      rwa [marksOf_nil, List.append_nil]
  | @cons item rest behind isItem comma others ih =>
      by_cases hnone : item ++ rest = []
      · rw [hnone]
        refine ⟨state, foldOptions_nil count state, ?_⟩
        rwa [marksOf_nil, List.append_nil]
      · rw [marksOf_append, ← List.append_assoc, comma.marksOf_eq] at hfit ⊢
        obtain ⟨next, hnext, hholds⟩ :=
          taking.accepts closing hholds isItem (kind.fit_front hfit) comma
        have hshorter := comma.length_lt hnone
        rw [foldOptions_of_ne_nil hnone hcount, hnext]
        exact ih hholds hfit (by omega)

/-- Behind options that fit a fault is reported, by induction on these. -/
theorem refuses_list {closing : Span} {front tokens : List Tree} {refusal : Refusal}
    (h : CommaEnded kind.IsOption front) {state : σ} {marks : List Role} {count : Nat}
    (hholds : Holds state marks) (hfit : kind.Fit (marks ++ marksOf front))
    (hmore : tokens ≠ []) (hfault : kind.Fault closing (marks ++ marksOf front) tokens refusal)
    (htold : Told refusal) (hcount : (front ++ tokens).length ≤ count)
    : foldOptions closing (option closing) count state (front ++ tokens)
      = .error refusal := by
  induction h generalizing state marks count with
  | nil =>
      rw [marksOf_nil, List.append_nil] at hfit hfault
      rw [List.nil_append] at hcount ⊢
      rw [foldOptions_of_ne_nil hmore hcount, taking.refuses hholds hfit hfault htold]
      rfl
  | @cons item behind joined span isItem others ih =>
      rw [marksOf_append, marksOf_comma, ← List.append_assoc] at hfit hfault
      rw [List.append_assoc, List.cons_append] at hcount ⊢
      obtain ⟨next, hnext, hholds⟩ :=
        taking.accepts closing hholds isItem (kind.fit_front hfit) .comma
      have hsome : item ++ .mark ',' joined span :: (behind ++ tokens) ≠ [] := by simp
      have hshorter := BehindComma.comma.length_lt hsome
      rw [foldOptions_of_ne_nil hsome hcount, hnext]
      exact ih hholds hfit hfault (by omega)

/-- A list of tokens is one of options that fit, or has a first fault; by recursion on the
tokens.
-/
theorem decides_list (closing : Span) (marks : List Role) (tokens : List Tree)
    (hfit : kind.Fit marks)
    : (CommaList kind.IsOption tokens ∧ kind.Fit (marks ++ marksOf tokens))
      ∨ ∃ front others refusal,
        tokens = front ++ others
        ∧ CommaEnded kind.IsOption front
        ∧ kind.Fit (marks ++ marksOf front)
        ∧ others ≠ []
        ∧ kind.Fault closing (marks ++ marksOf front) others refusal := by
  have hnil : marks ++ marksOf [] = marks := List.append_nil marks
  by_cases hnone : tokens = []
  · rw [hnone, hnil]
    exact .inl ⟨.nil, hfit⟩
  · rcases taking.decides closing tokens hfit with
      ⟨item, rest, behind, rfl, isItem, hitem, comma⟩ | ⟨refusal, hfault⟩
    · cases comma with
      | nil =>
          have hlist : CommaList kind.IsOption (item ++ []) := .cons isItem .nil .nil
          rw [List.append_nil] at hlist ⊢
          exact .inl ⟨hlist, hitem⟩
      | @comma behind joined span =>
          rcases decides_list closing (marks ++ marksOf item) behind hitem with
            ⟨hlist, hmarks⟩ | ⟨front, others, refusal, rfl, hfront, hmarks, hmore, hfault⟩
          · refine .inl ⟨.cons isItem .comma hlist, ?_⟩
            rwa [marksOf_append, marksOf_comma, ← List.append_assoc]
          · refine .inr ⟨item ++ .mark ',' joined span :: front, others, refusal, ?_,
              .cons isItem hfront, ?_, hmore, ?_⟩
            · rw [List.append_assoc, List.cons_append]
            · rwa [marksOf_append, marksOf_comma, ← List.append_assoc]
            · rwa [marksOf_append, marksOf_comma, ← List.append_assoc]
    · exact .inr ⟨[], tokens, refusal, rfl, .nil, hnil.symm ▸ hfit, hnone, hnil.symm ▸ hfault⟩
termination_by tokens.length
decreasing_by
  subst_vars
  simp only [List.length_append, List.length_cons]
  omega

-----------------------------------------------------------------------------------------
-- All attributes
-----------------------------------------------------------------------------------------

/-- Well-formed attributes are gone through to their end, by induction from the last on. -/
theorem accepts_attributes {attributes : List Attribute} (h : kind.WellFormed attributes)
    : ∃ final,
        foldAttributes option initial attributes = .ok final
        ∧ Holds final (marksOf (attributes.flatMap Attribute.options)) := by
  induction attributes using List.reverseRecOn with
  | nil => exact ⟨initial, rfl, taking.starts⟩
  | append_singleton front a ih =>
      obtain ⟨state, hfront, hholds⟩ := ih h.of_concat
      have hfit := h.fit
      simp only [List.flatMap_append, List.flatMap_singleton, marksOf_append] at hfit ⊢
      rw [foldAttributes_append, hfront]
      by_cases hdsl : a.name = some (.plain "dsl")
      · obtain ⟨tokens, closing, hcontent, hlist⟩ :=
          h.lists a (List.mem_append_right _ (List.mem_singleton_self a)) hdsl
        rw [Attribute.options_of_list hdsl hcontent] at hfit ⊢
        obtain ⟨final, hfinal, hholds⟩ :=
          taking.accepts_list closing hlist hholds hfit (Nat.le_refl _)
        refine ⟨final, ?_, hholds⟩
        simp only [bind, Except.bind, foldAttributes, if_pos hdsl, hcontent, hfinal]
      · rw [Attribute.options_of_other hdsl]
        refine ⟨state, ?_, by rwa [marksOf_nil, List.append_nil]⟩
        simp only [bind, Except.bind, foldAttributes, if_neg hdsl]

/-- The first fault in attributes is reported. -/
theorem refuses_attributes {attributes : List Attribute} {refusal : Refusal}
    (h : kind.FirstFault attributes refusal) (htold : Told refusal)
    : foldAttributes option initial attributes = .error refusal := by
  obtain ⟨front, a, back, rfl, hfront, hdsl, hfault⟩ := h
  obtain ⟨state, hstate, hholds⟩ := taking.accepts_attributes hfront
  rw [foldAttributes_append, hstate]
  cases hfault with
  | missing content =>
      simp only [bind, Except.bind, foldAttributes, if_pos hdsl, content]
  | value content =>
      simp only [bind, Except.bind, foldAttributes, if_pos hdsl, content]
  | option content options fit more fault =>
      have hrefused := taking.refuses_list options hholds fit more fault htold (Nat.le_refl _)
      simp only [bind, Except.bind, foldAttributes, if_pos hdsl, content, hrefused]

/-- Attributes are well formed or have a first fault, by induction from the last on. -/
theorem decides_attributes (attributes : List Attribute)
    : kind.WellFormed attributes ∨ ∃ refusal, kind.FirstFault attributes refusal := by
  induction attributes using List.reverseRecOn with
  | nil => exact .inl ⟨nofun, kind.fit_nil⟩
  | append_singleton front a ih =>
      rcases ih with hfront | ⟨refusal, hfault⟩
      · have hbroken : ∀ {refusal : Refusal},
            a.name = some (.plain "dsl")
            → kind.AttributeFault (marksOf (front.flatMap Attribute.options)) a refusal
            → ∃ refusal, kind.FirstFault (front ++ [a]) refusal :=
          fun hdsl hfault => ⟨_, front, a, [], rfl, hfront, hdsl, hfault⟩
        by_cases hdsl : a.name = some (.plain "dsl")
        · cases hcontent : a.content with
          | none => exact .inr (hbroken hdsl (.missing hcontent))
          | value mark => exact .inr (hbroken hdsl (.value hcontent))
          | list tokens closing =>
              rcases taking.decides_list closing _ tokens hfront.fit with
                ⟨hlist, hfit⟩ | ⟨ahead, others, refusal, rfl, hahead, hfit, hmore, hfault⟩
              · refine .inl (hfront.concat (fun _ => ⟨_, _, hcontent, hlist⟩) ?_)
                rwa [Attribute.options_of_list hdsl hcontent]
              · exact .inr (hbroken hdsl (.option hcontent hahead hfit hmore hfault))
        · refine .inl (hfront.concat (fun h => absurd h hdsl) ?_)
          rw [Attribute.options_of_other hdsl, marksOf_nil, List.append_nil]
          exact hfront.fit
      · exact .inr ⟨refusal, hfault.append [a]⟩

section

variable (hall : ∀ refusal, Told refusal)

include hall

/-- If all faults are told, attributes are accepted if and only if they are well formed. -/
theorem accepts_iff {attributes : List Attribute}
    : (∃ final, foldAttributes option initial attributes = .ok final)
      ↔ kind.WellFormed attributes := by
  constructor
  · rintro ⟨final, hfinal⟩
    rcases taking.decides_attributes attributes with h | ⟨refusal, hfault⟩
    · exact h
    · rw [taking.refuses_attributes hfault (hall refusal)] at hfinal
      exact nomatch hfinal
  · intro h
    obtain ⟨final, hfinal, _⟩ := taking.accepts_attributes h
    exact ⟨final, hfinal⟩

/-- Then what is reported of attributes is their first fault. -/
theorem refuses_iff {attributes : List Attribute} {refusal : Refusal}
    : foldAttributes option initial attributes = .error refusal
      ↔ kind.FirstFault attributes refusal := by
  constructor
  · intro hrefused
    rcases taking.decides_attributes attributes with h | ⟨other, hfault⟩
    · obtain ⟨final, hfinal, _⟩ := taking.accepts_attributes h
      rw [hfinal] at hrefused
      exact nomatch hrefused
    · rw [taking.refuses_attributes hfault (hall other)] at hrefused
      obtain rfl := Except.error.inj hrefused
      exact hfault
  · exact fun hfault => taking.refuses_attributes hfault (hall refusal)

end

end OptionKind.Taking

end DeclaredSettings.Derive
