import DeclaredSettings.Proofs.Derive.OptionPaths
import DeclaredSettings.Proofs.Outcome.Sequencing

/-! Lists with commas between their items, and among these the lists of keys: what is read in
one are the names that its tokens write, unless one of the tokens is out of place.
-/

namespace DeclaredSettings.Derive

open Outcome

-----------------------------------------------------------------------------------------
-- Lists with commas
-----------------------------------------------------------------------------------------

/-- What comes behind an item of a list and the comma behind that; the last item may stand
without one.
-/
inductive BehindComma : List Tree → List Tree → Prop
  | nil : BehindComma [] []
  | comma {behind : List Tree} {joined : Bool} {span : Span}
    : BehindComma behind (.mark ',' joined span :: behind)

/-- A token that is no comma. -/
def NoComma (token : Tree) : Prop :=
  ∀ joined span, token ≠ .mark ',' joined span

/-- The tokens of a list: items with a comma between any two, and maybe one behind the last.
-/
inductive CommaList (IsItem : List Tree → Prop) : List Tree → Prop
  | nil : CommaList IsItem []
  | cons {item rest behind : List Tree} (isItem : IsItem item)
    (comma : BehindComma behind rest) (others : CommaList IsItem behind)
    : CommaList IsItem (item ++ rest)

/-- The tokens of items with a comma behind each of them. -/
inductive CommaEnded (IsItem : List Tree → Prop) : List Tree → Prop
  | nil : CommaEnded IsItem []
  | cons {item behind : List Tree} {joined : Bool} {span : Span} (isItem : IsItem item)
    (others : CommaEnded IsItem behind)
    : CommaEnded IsItem (item ++ .mark ',' joined span :: behind)

/-- What comes behind an item and its comma is shorter than both. -/
theorem BehindComma.length_lt {item rest behind : List Tree} (h : BehindComma behind rest)
    (hsome : item ++ rest ≠ [])
    : behind.length < (item ++ rest).length := by
  cases h with
  | nil => exact List.length_pos_of_ne_nil hsome
  | comma =>
      simp only [List.length_append, List.length_cons]
      omega

theorem BehindComma.not_goesOn {rest behind : List Tree} (h : BehindComma behind rest)
    : ¬ GoesOn rest := by
  rintro ⟨_, hcolons⟩
  cases h with
  | nil => exact nomatch hcolons
  | comma => exact nomatch hcolons

/-- Tokens are none, or begin with a comma, or with what is no comma. -/
theorem behindComma_or_noComma (tokens : List Tree)
    : (∃ behind, BehindComma behind tokens)
      ∨ ∃ token others, tokens = token :: others ∧ NoComma token := by
  by_cases hcomma : ∃ behind, BehindComma behind tokens
  · exact .inl hcomma
  · cases tokens with
    | nil => exact absurd ⟨[], .nil⟩ hcomma
    | cons token others =>
        refine .inr ⟨token, others, rfl, fun joined span heq => hcomma ?_⟩
        rw [heq]
        exact ⟨others, .comma⟩

-----------------------------------------------------------------------------------------
-- Keys
-----------------------------------------------------------------------------------------

/-- The name that a token writes in a list of keys. An identifier writes its name whether it
is raw or not, and a string literal the canonical form of its value.
-/
def Tree.keyName? (token : Tree) : Option String :=
  match token with
  | .ident found _ => some found.name
  | .literal text _ => (stringValue? text).map canonical
  | _ => none

/-- The names in a list of keys. -/
def keyNames (tokens : List Tree) : List String :=
  tokens.filterMap Tree.keyName?

/-- One token that writes a name. -/
inductive IsKey : List Tree → Prop
  | mk {token : Tree} {name : String} (writes : token.keyName? = some name) : IsKey [token]

/-- What is wrong in front of some tokens: the first writes no name, or what comes behind it
is no comma.
-/
inductive KeyFault : List Tree → Refusal → Prop
  | noName {token : Tree} {rest : List Tree} (noName : token.keyName? = none)
    : KeyFault (token :: rest) (.fault (.identExpected false) token.span)
  | noComma {key token : Tree} {name : String} {rest : List Tree}
    (writes : key.keyName? = some name) (noComma : NoComma token)
    : KeyFault (key :: token :: rest) (.fault .commaExpected token.span)

/-- One name of a list of keys. -/
def firstKey (token : Tree) : Except Refusal WrittenKey :=
  match token with
  | .ident found span => .ok ⟨found.name, span⟩
  | .literal text span =>
    match stringValue? text with
    | some value => .ok ⟨canonical value, span⟩
    | none => .error (.fault (.identExpected false) span)
  | token => .error (.fault (.identExpected false) token.span)

/-- A name and what is read behind it. -/
def moreKeys (closing : Span) (first : WrittenKey)
    : List Tree → Except Refusal (List WrittenKey)
  | [] => .ok [first]
  | .mark ',' _ _ :: rest => do
    let others ← writtenKeys closing rest
    .ok (first :: others)
  | tree :: _ => .error (.fault .commaExpected tree.span)

/-- A list of keys is read name by name. -/
theorem writtenKeys_cons (closing : Span) (token : Tree) (rest : List Tree)
    : writtenKeys closing (token :: rest)
      = firstKey token >>= fun first => moreKeys closing first rest := by
  unfold writtenKeys firstKey moreKeys
  cases token with
  | literal text span =>
      dsimp only
      cases stringValue? text with
      | some value => rfl
      | none => rfl
  | ident _ _ | mark _ _ _ | group _ _ _ _ => rfl

/-- What a token writes in a list of keys, with its place. -/
def Tree.writtenKey? (token : Tree) : Option WrittenKey :=
  token.keyName?.map fun name => ⟨name, token.span⟩

theorem Tree.writtenKey?_of_some {token : Tree} {name : String}
    (h : token.keyName? = some name)
    : token.writtenKey? = some ⟨name, token.span⟩ := by
  rw [Tree.writtenKey?, h]
  rfl

theorem firstKey_of_some {token : Tree} {name : String} (h : token.keyName? = some name)
    : firstKey token = .ok ⟨name, token.span⟩ := by
  cases token with
  | ident found span =>
      obtain rfl := Option.some.inj h
      rfl
  | literal text span =>
      obtain ⟨value, hvalue, rfl⟩ := Option.map_eq_some_iff.mp h
      rw [firstKey, hvalue]
      rfl
  | mark | group => exact nomatch h

theorem firstKey_of_none {token : Tree} (h : token.keyName? = none)
    : firstKey token = .error (.fault (.identExpected false) token.span) := by
  cases token with
  | ident found span => exact nomatch h
  | literal text span =>
      rw [firstKey, Option.map_eq_none_iff.mp h]
      rfl
  | mark | group => rfl

/-- Behind a key and a comma the list goes on. -/
theorem moreKeys_of_behindComma {closing : Span} {first : WrittenKey}
    {rest behind : List Tree} (h : BehindComma behind rest)
    : moreKeys closing first rest
      = writtenKeys closing behind >>= fun others => .ok (first :: others) := by
  cases h with
  | nil => rfl
  | comma => rfl

theorem moreKeys_of_noComma {closing : Span} {first : WrittenKey} {token : Tree}
    (h : NoComma token) (rest : List Tree)
    : moreKeys closing first (token :: rest) = .error (.fault .commaExpected token.span) := by
  unfold moreKeys
  split
  · next heq => exact nomatch heq
  · next heq => exact absurd (List.cons.inj heq).1 (h _ _)
  · next heq => rw [(List.cons.inj heq).1]

theorem BehindComma.writtenKeys_eq {behind rest : List Tree} (h : BehindComma behind rest)
    : rest.filterMap Tree.writtenKey? = behind.filterMap Tree.writtenKey? := by
  cases h with
  | nil => rfl
  | comma => rfl

/-- In a list of keys all tokens but the commas are read, by induction on the list. -/
theorem writtenKeys_of_commaList {tokens : List Tree} (h : CommaList IsKey tokens)
    (closing : Span)
    : writtenKeys closing tokens = .ok (tokens.filterMap Tree.writtenKey?) := by
  induction h with
  | nil => rfl
  | cons isKey comma _ ih =>
      cases isKey with
      | @mk token name writes =>
          rw [List.singleton_append, writtenKeys_cons, firstKey_of_some writes,
            List.filterMap_cons_some (Tree.writtenKey?_of_some writes), comma.writtenKeys_eq]
          simp only [bind, Except.bind, moreKeys_of_behindComma comma, ih]

/-- What is wrong behind keys is wrong in the list, by induction on the keys. -/
theorem writtenKeys_of_commaEnded {front rest : List Tree} (h : CommaEnded IsKey front)
    {closing : Span} {refusal : Refusal} (hrest : writtenKeys closing rest = .error refusal)
    : writtenKeys closing (front ++ rest) = .error refusal := by
  induction h with
  | nil => exact hrest
  | cons isKey _ ih =>
      cases isKey with
      | mk writes =>
          rw [List.append_assoc, List.singleton_append, writtenKeys_cons,
            firstKey_of_some writes]
          simp only [bind, Except.bind, List.cons_append, moreKeys_of_behindComma .comma, ih]

theorem KeyFault.refused {tokens : List Tree} {refusal : Refusal} (h : KeyFault tokens refusal)
    (closing : Span)
    : writtenKeys closing tokens = .error refusal := by
  cases h with
  | noName noName =>
      rw [writtenKeys_cons, firstKey_of_none noName]
      rfl
  | noComma writes noComma =>
      rw [writtenKeys_cons, firstKey_of_some writes]
      exact moreKeys_of_noComma noComma _

/-- Tokens are a list of keys, or have a first one that is none; by recursion on the tokens.
-/
theorem commaList_or_keyFault (tokens : List Tree)
    : CommaList IsKey tokens
      ∨ ∃ front rest refusal,
        tokens = front ++ rest ∧ CommaEnded IsKey front ∧ KeyFault rest refusal := by
  match tokens with
  | [] => exact .inl .nil
  | token :: rest =>
      cases hwrites : token.keyName? with
      | none => exact .inr ⟨[], token :: rest, _, rfl, .nil, .noName hwrites⟩
      | some name =>
          rcases behindComma_or_noComma rest with ⟨_, ⟨⟩⟩ | ⟨next, others, rfl, hcomma⟩
          · exact .inl (.cons (IsKey.mk hwrites) .nil .nil)
          · next behind joined span =>
            rcases commaList_or_keyFault behind with
              hlist | ⟨front, rest, refusal, rfl, hfront, hfault⟩
            · exact .inl (.cons (IsKey.mk hwrites) .comma hlist)
            · exact .inr ⟨_, rest, refusal, rfl, .cons (IsKey.mk hwrites) hfront, hfault⟩
          · exact .inr ⟨[], _, _, rfl, .nil, .noComma hwrites hcomma⟩

/-- What is read in a list of keys are the names that its tokens write. -/
theorem eq_filterMap_of_writtenKeys {closing : Span} {tokens : List Tree}
    {written : List WrittenKey} (h : writtenKeys closing tokens = .ok written)
    : written = tokens.filterMap Tree.writtenKey? := by
  rcases commaList_or_keyFault tokens with
    hlist | ⟨front, rest, refusal, rfl, hfront, hfault⟩
  · exact Except.ok.inj (h.symm.trans (writtenKeys_of_commaList hlist closing))
  · have hrefused := writtenKeys_of_commaEnded hfront (hfault.refused closing)
    exact nomatch h.symm.trans hrefused

theorem names_writtenKeys {closing : Span} {tokens : List Tree} {written : List WrittenKey}
    (h : writtenKeys closing tokens = .ok written)
    : written.map (·.name) = keyNames tokens := by
  rw [eq_filterMap_of_writtenKeys h, List.map_filterMap, keyNames]
  refine List.filterMap_congr fun token _ => ?_
  cases hwrites : token.keyName? with
  | none => rw [Tree.writtenKey?, hwrites, Option.map_none, Option.map_none]
  | some name => rw [Tree.writtenKey?_of_some hwrites, Option.map_some]

/-- Each of these names has the place of a token that writes it. -/
theorem exists_token_of_mem_written {tokens : List Tree} {key : WrittenKey}
    (h : key ∈ tokens.filterMap Tree.writtenKey?)
    : ∃ token ∈ tokens, token.keyName? = some key.name ∧ key.place = token.span := by
  obtain ⟨token, htoken, hwritten⟩ := List.mem_filterMap.mp h
  obtain ⟨name, hwrites, rfl⟩ := Option.map_eq_some_iff.mp hwritten
  exact ⟨token, htoken, hwrites, rfl⟩

end DeclaredSettings.Derive
