import DeclaredSettings.Proofs.Derive.KeyListFaults

/-! The options of a struct: a list of usable names, or the path of the library. Any tokens
begin with such an option, or something is wrong in front of them, and that is reported.
-/

namespace DeclaredSettings.Derive

open Outcome

-----------------------------------------------------------------------------------------
-- Options of structs and what is none
-----------------------------------------------------------------------------------------

/-- The tokens of one option of a struct. -/
inductive IsStructOption : List Tree → Prop
  | keys {word opening inner : Span} {content : List Tree} (keys : CommaList IsKey content)
    (usable : ∀ name ∈ keyNames content, IsUsable name)
    : IsStructOption
        [.ident (.plain "keys") word, .group .parenthesis content opening inner]
  | library {word equals place : Span} {joined : Bool} {text : List Char} {value : String}
    {code : List Code} (string : stringValue? text = some value)
    (path : pathOf value = .ok code)
    : IsStructOption
        [.ident (.plain "crate") word, .mark '=' joined equals, .literal text place]

/-- What is wrong where an option of a struct and a comma or the end should be. -/
inductive StructFault (closing : Span) : List Tree → Refusal → Prop
  | noPath {tokens : List Tree} {refusal : Refusal} (fault : PathFault closing tokens refusal)
    : StructFault closing tokens refusal
  | unknown {front rest : List Tree} {path : OptionPath} (isPath : IsPath front path)
    (ends : ¬ GoesOn rest) (noKeys : path.is "keys" = false)
    (noLibrary : path.is "crate" = false)
    : StructFault closing (front ++ rest) (.fault .unknownOption path.place)
  | noList {word : Span} {rest : List Tree} (ends : ¬ GoesOn rest)
    (noList : ∀ content opening inner others,
      rest ≠ .group .parenthesis content opening inner :: others)
    : StructFault closing (.ident (.plain "keys") word :: rest)
        (.fault (.parenthesesExpected rest.isEmpty) (placeOf closing rest))
  | badKeys {word opening inner : Span} {content rest : List Tree} {refusal : Refusal}
    (fault : KeyListFault content refusal)
    : StructFault closing
        (.ident (.plain "keys") word :: .group .parenthesis content opening inner :: rest)
        refusal
  | noEquals {word : Span} {rest : List Tree} (ends : ¬ GoesOn rest)
    (noEquals : ∀ joined span others, rest ≠ .mark '=' joined span :: others)
    : StructFault closing (.ident (.plain "crate") word :: rest)
        (.fault .equalsExpected (placeOf closing rest))
  | noLiteral {word equals : Span} {joined : Bool} {rest : List Tree}
    (noLiteral : ∀ text place others, rest ≠ .literal text place :: others)
    : StructFault closing
        (.ident (.plain "crate") word :: .mark '=' joined equals :: rest)
        (.fault (.stringExpected rest.isEmpty) (placeOf closing rest))
  | noString {word equals place : Span} {joined : Bool} {text : List Char}
    {rest : List Tree} (noString : stringValue? text = none)
    : StructFault closing
        (.ident (.plain "crate") word :: .mark '=' joined equals :: .literal text place
          :: rest)
        (.fault (.stringExpected false) place)
  | noLibraryPath {word equals place : Span} {joined : Bool} {text : List Char}
    {value : String} {fault : SyntaxFault} {rest : List Tree}
    (string : stringValue? text = some value) (noLibraryPath : pathOf value = .error fault)
    : StructFault closing
        (.ident (.plain "crate") word :: .mark '=' joined equals :: .literal text place
          :: rest)
        (.fault (.badPath fault) place)
  | noComma {front rest : List Tree} {token : Tree} (isOption : IsStructOption front)
    (noComma : NoComma token)
    : StructFault closing (front ++ token :: rest) (.fault .commaExpected token.span)

/-- The options of structs. All of them fit together. -/
def structKind : OptionKind where
  IsOption := IsStructOption
  Fit _ := True
  Fault closing _ := StructFault closing
  fit_nil := trivial
  fit_front _ := trivial

-----------------------------------------------------------------------------------------
-- Taking them
-----------------------------------------------------------------------------------------

variable {closing : Span} {options : StructOptions}

/-- Behind the word `keys` a list of keys is read and its names are checked. -/
theorem nextOption_keys {word opening inner : Span} {content rest : List Tree}
    : nextOption closing (structOption closing) options
        (.ident (.plain "keys") word :: .group .parenthesis content opening inner :: rest)
      = (writtenKeys inner content >>= fun written => written.mapM WrittenKey.declared)
          >>= fun declared =>
            pastComma { options with keys := declared.foldl addKey options.keys } rest := by
  have hends : ¬ GoesOn (.group .parenthesis content opening inner :: rest) :=
    fun ⟨_, hcolons⟩ => nomatch hcolons
  rw [nextOption_of_word hends]
  unfold structOption
  rw [if_pos (OptionPath.is_word _ _)]
  simp only [bind_assoc]
  rfl

/-- The code of the path that a literal writes. -/
def writtenPath (text : List Char) (place : Span) : Except Refusal (List Code) :=
  match stringValue? text with
  | none => .error (.fault (.stringExpected false) place)
  | some value =>
    match pathOf value with
    | .ok code => .ok code
    | .error fault => .error (.fault (.badPath fault) place)

/-- Behind the word `crate` and an equals sign a path is read. -/
theorem nextOption_library {word equals place : Span} {joined : Bool} {text : List Char}
    {rest : List Tree}
    : nextOption closing (structOption closing) options
        (.ident (.plain "crate") word :: .mark '=' joined equals :: .literal text place
          :: rest)
      = writtenPath text place >>= fun code =>
          pastComma { options with libraryPath := some code } rest := by
  have hends : ¬ GoesOn (.mark '=' joined equals :: .literal text place :: rest) :=
    fun ⟨_, hcolons⟩ => nomatch hcolons
  rw [nextOption_of_word hends]
  unfold structOption writtenPath
  rw [if_neg (OptionPath.is_other (by decide) _), if_pos (OptionPath.is_word _ _)]
  cases hstring : stringValue? text with
  | none => simp only [bind, Except.bind, hstring]
  | some value =>
      cases hpath : pathOf value with
      | error fault => simp only [bind, Except.bind, hstring, hpath]
      | ok code => simp only [bind, Except.bind, hstring, hpath]

/-- An option of a struct is taken up to the comma behind it or the end. -/
theorem IsStructOption.taken {tokens rest behind : List Tree} (h : IsStructOption tokens)
    (hcomma : BehindComma behind rest)
    : ∃ next,
        nextOption closing (structOption closing) options (tokens ++ rest)
        = .ok (next, behind) := by
  cases h with
  | @keys word opening inner content keys usable =>
      obtain ⟨written, declared, hwritten, hdeclared⟩ := exists_declared keys usable inner
      refine ⟨{ options with keys := declared.foldl addKey options.keys }, ?_⟩
      rw [List.cons_append, List.singleton_append, nextOption_keys, hwritten]
      simp only [bind, Except.bind, hdeclared, pastComma_eq_ok hcomma]
  | @library word equals place joined text value code string path =>
      refine ⟨{ options with libraryPath := some code }, ?_⟩
      rw [List.cons_append, List.cons_append, List.singleton_append, nextOption_library]
      simp only [bind, Except.bind, writtenPath, string, path, pastComma_eq_ok hcomma]

/-- What is no comma behind an option of a struct is reported. -/
theorem IsStructOption.refused {tokens rest : List Tree} {token : Tree}
    (h : IsStructOption tokens) (hcomma : NoComma token)
    : nextOption closing (structOption closing) options (tokens ++ token :: rest)
      = .error (.fault .commaExpected token.span) := by
  cases h with
  | keys keys usable =>
      obtain ⟨written, declared, hwritten, hdeclared⟩ := exists_declared keys usable _
      rw [List.cons_append, List.singleton_append, nextOption_keys, hwritten]
      simp only [bind, Except.bind, hdeclared, pastComma_eq_error hcomma]
  | library string path =>
      rw [List.cons_append, List.cons_append, List.singleton_append, nextOption_library]
      simp only [bind, Except.bind, writtenPath, string, path, pastComma_eq_error hcomma]

/-- What is wrong where an option of a struct should be is reported. -/
theorem StructFault.refused {tokens : List Tree} {refusal : Refusal}
    (h : StructFault closing tokens refusal) (hshown : ¬ refusal.BlamesHidden)
    : nextOption closing (structOption closing) options tokens = .error refusal := by
  cases h with
  | noPath fault => exact nextOption_of_pathFault fault
  | unknown isPath ends noKeys noLibrary =>
      rw [nextOption_of_isPath isPath ends]
      unfold structOption
      rw [noKeys, noLibrary]
      rfl
  | noList ends noList =>
      rw [nextOption_of_word ends]
      unfold structOption
      rw [if_pos (OptionPath.is_word _ _)]
      split
      · exact absurd rfl (noList _ _ _ _)
      · rfl
  | badKeys fault =>
      rw [nextOption_keys, fault.refused hshown]
      rfl
  | noEquals ends noEquals =>
      rw [nextOption_of_word ends]
      unfold structOption
      rw [if_neg (OptionPath.is_other (by decide) _), if_pos (OptionPath.is_word _ _)]
      split
      · exact absurd rfl (noEquals _ _ _)
      · rfl
  | @noLiteral word equals joined rest noLiteral =>
      have hends : ¬ GoesOn (.mark '=' joined equals :: rest) :=
        fun ⟨_, hcolons⟩ => nomatch hcolons
      rw [nextOption_of_word hends]
      unfold structOption
      rw [if_neg (OptionPath.is_other (by decide) _), if_pos (OptionPath.is_word _ _)]
      split
      · next heq =>
        obtain ⟨_, rfl⟩ := List.cons.inj heq
        split
        · exact absurd rfl (noLiteral _ _ _)
        · rfl
      · next hother => exact absurd rfl (hother _ _ _)
  | noString noString =>
      rw [nextOption_library, writtenPath, noString]
      rfl
  | noLibraryPath string noLibraryPath =>
      rw [nextOption_library, writtenPath, string]
      simp only [noLibraryPath]
      rfl
  | noComma isOption noComma => exact isOption.refused noComma

/-- Behind an option of a struct comes a comma or the end, or else this is wrong. -/
theorem IsStructOption.begins_or_fault {item : List Tree} (h : IsStructOption item)
    (rest : List Tree)
    : structKind.Begins [] (item ++ rest)
      ∨ ∃ refusal, StructFault closing (item ++ rest) refusal := by
  rcases behindComma_or_noComma rest with ⟨behind, hcomma⟩ | ⟨token, others, rfl, hcomma⟩
  · exact .inl ⟨item, rest, behind, rfl, h, trivial, hcomma⟩
  · exact .inr ⟨_, .noComma h hcomma⟩

/-- Tokens begin with an option of a struct and a comma or the end, or something is wrong in
front of them.
-/
theorem structOption_or_fault (closing : Span) (tokens : List Tree)
    : structKind.Begins [] tokens ∨ ∃ refusal, StructFault closing tokens refusal := by
  rcases exists_path_or_fault closing tokens with
    ⟨front, rest, path, rfl, hpath, hends⟩ | ⟨refusal, hfault⟩
  · by_cases hkeys : path.is "keys" = true
    · obtain ⟨word, rfl⟩ := hpath.eq_ident hkeys
      by_cases hlist : ∃ content opening inner others,
          rest = .group .parenthesis content opening inner :: others
      · obtain ⟨content, opening, inner, others, rfl⟩ := hlist
        rcases keys_or_keyListFault content with ⟨hkeys, husable⟩ | ⟨refusal, hfault⟩
        · exact (IsStructOption.keys hkeys husable).begins_or_fault others
        · exact .inr ⟨refusal, .badKeys hfault⟩
      · exact .inr ⟨_, .noList hends fun _ _ _ _ h => hlist ⟨_, _, _, _, h⟩⟩
    · by_cases hlibrary : path.is "crate" = true
      · obtain ⟨word, rfl⟩ := hpath.eq_ident hlibrary
        by_cases hequals : ∃ joined span others, rest = .mark '=' joined span :: others
        · obtain ⟨joined, equals, others, rfl⟩ := hequals
          by_cases hliteral : ∃ text place behind, others = .literal text place :: behind
          · obtain ⟨text, place, behind, rfl⟩ := hliteral
            cases hstring : stringValue? text with
            | none => exact .inr ⟨_, .noString hstring⟩
            | some value =>
                cases hcode : pathOf value with
                | error fault => exact .inr ⟨_, .noLibraryPath hstring hcode⟩
                | ok code =>
                    exact (IsStructOption.library hstring hcode).begins_or_fault behind
          · exact .inr ⟨_, .noLiteral fun _ _ _ h => hliteral ⟨_, _, _, h⟩⟩
        · exact .inr ⟨_, .noEquals hends fun _ _ _ h => hequals ⟨_, _, _, h⟩⟩
      · exact .inr ⟨_, .unknown hpath hends (Bool.not_eq_true _ ▸ hkeys)
          (Bool.not_eq_true _ ▸ hlibrary)⟩
  · exact .inr ⟨refusal, .noPath hfault⟩

/-- So the options of structs are taken as their kind says, and what is wrong is told unless
it is a name that hides an identifier.
-/
theorem structTaking
    : structKind.Taking structOption ⟨[], none⟩ (fun _ _ => True)
        (¬ Refusal.BlamesHidden ·) where
  starts := trivial
  accepts := by
    intro closing state marks tokens rest behind _ isOption _ hcomma
    obtain ⟨next, hnext⟩ := IsStructOption.taken isOption hcomma
    exact ⟨next, hnext, trivial⟩
  refuses _ _ hfault hshown := StructFault.refused hfault hshown
  decides closing _ tokens _ := structOption_or_fault closing tokens

end DeclaredSettings.Derive
