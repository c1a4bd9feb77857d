import DeclaredSettings.Derive.Expansion
import DeclaredSettings.Proofs.Derive.AcceptedKeys
import DeclaredSettings.Proofs.Derive.CommaLists
import DeclaredSettings.Proofs.Schema.FirstOccurrences

/-! The names of a declaration are those that stand in its lists of keys, each at its first
occurrence. How they are grouped into lists and attributes makes no difference, nor do the
other options that stand between them.
-/

namespace DeclaredSettings.Derive

open Outcome

-----------------------------------------------------------------------------------------
-- The names that an item writes
-----------------------------------------------------------------------------------------

/-- The lists of keys among some options: what stands in parentheses behind the word `keys`.
-/
def keyLists : List Tree → List (List Tree)
  | .ident word _ :: .group .parenthesis content _ _ :: rest =>
    if word = .plain "keys" then content :: keyLists rest else keyLists rest
  | _ :: rest => keyLists rest
  | [] => []

/-- The options that an attribute holds, if it is a `dsl` attribute. -/
def Attribute.options (a : Attribute) : List Tree :=
  match a.content with
  | .list tokens _ => if a.name = some (.plain "dsl") then tokens else []
  | _ => []

theorem Attribute.options_of_list {a : Attribute} {tokens : List Tree} {closing : Span}
    (hdsl : a.name = some (.plain "dsl")) (hcontent : a.content = .list tokens closing)
    : a.options = tokens := by
  rw [Attribute.options, hcontent]
  exact if_pos hdsl

theorem Attribute.options_of_other {a : Attribute} (h : a.name ≠ some (.plain "dsl"))
    : a.options = [] := by
  unfold Attribute.options
  split
  · exact if_neg h
  · rfl

/-- The lists of keys in the `dsl` attributes of an item, in order. -/
def Item.keyLists (item : Item) : List (List Tree) :=
  item.attributes.flatMap fun a => Derive.keyLists a.options

/-- The names that an item writes, in order. -/
def Item.writtenNames (item : Item) : List String :=
  item.keyLists.flatMap keyNames

-----------------------------------------------------------------------------------------
-- One list of keys
-----------------------------------------------------------------------------------------

/-- Keys that have some names, each at its first occurrence. -/
def ListsNames (keys : List DeclaredKey) (names : List String) : Prop :=
  keys.map (·.name) = names.eraseDups

/-- A key that is added puts its name behind the others. -/
theorem ListsNames.add {keys : List DeclaredKey} {names : List String}
    (h : ListsNames keys names) (key : DeclaredKey)
    : ListsNames (addKey keys key) (names ++ [key.name]) := by
  have hlisted : keys.any (·.name = key.name) = true ↔ key.name ∈ names := by
    rw [← List.mem_eraseDups, ← h, List.any_eq_true, List.mem_map]
    simp only [decide_eq_true_eq]
  unfold addKey ListsNames
  split
  · next hany => rw [eraseDups_concat_of_mem (hlisted.mp hany), ← h]
  · next hany =>
    rw [eraseDups_concat_of_not_mem (mt hlisted.mpr hany), ← h, List.map_append]
    rfl

/-- So do keys that are added in turn, by induction on them. -/
theorem ListsNames.addAll {keys added : List DeclaredKey} {names : List String}
    (h : ListsNames keys names)
    : ListsNames (added.foldl addKey keys) (names ++ added.map (·.name)) := by
  induction added generalizing keys names with
  | nil => rwa [List.map_nil, List.append_nil]
  | cons key others ih =>
      rw [List.map_cons, List.append_cons]
      exact ih (h.add key)

theorem names_mapM_declared {written : List WrittenKey} {declared : List DeclaredKey}
    (h : written.mapM WrittenKey.declared = .ok declared)
    : declared.map (·.name) = written.map (·.name) := by
  have hkeys := forall₂_of_mapM_eq_ok h
  clear h
  induction hkeys with
  | nil => rfl
  | cons hkey _ ih =>
      obtain ⟨ident, _, heq⟩ := bind_eq_ok.mp hkey
      rw [List.map_cons, List.map_cons, ih, ← Except.ok.inj heq]

-----------------------------------------------------------------------------------------
-- The options of one attribute
-----------------------------------------------------------------------------------------

/-- A path that is a name is the first token alone. -/
theorem eq_cons_of_optionPath {closing : Span} {cs rest : List Tree} {path : OptionPath}
    {name : String} (h : optionPath closing cs = .ok (path, rest))
    (hname : path.is name = true)
    : ∃ span, cs = .ident (.plain name) span :: rest := by
  rcases exists_path_or_fault closing cs with
    ⟨front, behind, found, rfl, hpath, hends⟩ | ⟨refusal, hfault⟩
  · rw [hpath.read hends] at h
    obtain ⟨rfl, rfl⟩ := Prod.mk.inj (Except.ok.inj h)
    obtain ⟨span, rfl⟩ := hpath.eq_ident hname
    exact ⟨span, rfl⟩
  · rw [optionPath_of_fault hfault] at h
    exact nomatch h

/-- A list of names or the path of the library: what an option of a struct is, and what
tokens it takes.
-/
theorem structOption_eq_ok {closing : Span} {options next : StructOptions}
    {path : OptionPath} {cs rest : List Tree}
    (h : structOption closing options path cs = .ok (next, rest))
    : (path.is "keys" = true
        ∧ ∃ content opening inner, ∃ declared : List DeclaredKey,
          cs = .group .parenthesis content opening inner :: rest
          ∧ declared.map (·.name) = keyNames content
          ∧ next.keys = declared.foldl addKey options.keys)
      ∨ path.is "crate" = true
        ∧ next.keys = options.keys
        ∧ ∃ equals joined place text span,
          cs = .mark equals joined place :: .literal text span :: rest := by
  unfold structOption at h
  split at h
  · next hkeys =>
    split at h
    · next content opening inner behind =>
      obtain ⟨written, hwritten, h⟩ := bind_eq_ok.mp h
      obtain ⟨declared, hdeclared, heq⟩ := bind_eq_ok.mp h
      obtain ⟨rfl, rfl⟩ := Prod.mk.inj (Except.ok.inj heq)
      have hnames := (names_mapM_declared hdeclared).trans (names_writtenKeys hwritten)
      exact .inl ⟨hkeys, content, opening, inner, declared, rfl, hnames, rfl⟩
    · exact nomatch h
  · split at h
    · next hcrate =>
      split at h
      · split at h
        · split at h
          · exact nomatch h
          · split at h
            · obtain ⟨rfl, rfl⟩ := Prod.mk.inj (Except.ok.inj h)
              exact .inr ⟨hcrate, rfl, _, _, _, _, _, rfl⟩
            · exact nomatch h
        · exact nomatch h
      · exact nomatch h
    · exact nomatch h

/-- An option of a struct takes its list of keys from the front, and puts the names in that
behind those that came earlier. The path of the library has no names.
-/
theorem keyLists_of_structOption {closing : Span} {options next : StructOptions}
    {path : OptionPath} {cs behind rest : List Tree}
    (hpath : optionPath closing cs = .ok (path, behind))
    (hnext : structOption closing options path behind = .ok (next, rest))
    : ∃ lists,
        keyLists cs = lists ++ keyLists rest
        ∧ rest.length < cs.length
        ∧ ∀ names,
            ListsNames options.keys names
            → ListsNames next.keys (names ++ lists.flatMap keyNames) := by
  rcases structOption_eq_ok hnext with
    ⟨hkeys, content, opening, inner, declared, rfl, hnames, heq⟩
    | ⟨hcrate, heq, equals, joined, place, text, literal, rfl⟩
  · obtain ⟨span, rfl⟩ := eq_cons_of_optionPath hpath hkeys
    refine ⟨[content], ?_, ?_, fun names h => ?_⟩
    · rw [keyLists, if_pos rfl]
      rfl
    · simp only [List.length_cons]
      omega
    · rw [heq, List.flatMap_singleton, ← hnames]
      exact h.addAll
  · obtain ⟨span, rfl⟩ := eq_cons_of_optionPath hpath hcrate
    refine ⟨[], rfl, ?_, fun names h => ?_⟩
    · simp only [List.length_cons]
      omega
    · rwa [heq, List.flatMap_nil, List.append_nil]

/-- Options that are read begin with one option, and end there or go on behind a comma. -/
theorem foldOptions_succ {σ : Type} {closing : Span}
    {option : σ → OptionPath → List Tree → Except Refusal (σ × List Tree)}
    {count : Nat} {state final : σ} {token : Tree} {cs : List Tree}
    (h : foldOptions closing option (count + 1) state (token :: cs) = .ok final)
    : ∃ path behind next rest,
        optionPath closing (token :: cs) = .ok (path, behind)
        ∧ option state path behind = .ok (next, rest)
        ∧ (rest = [] ∧ next = final
          ∨ ∃ joined span others,
              rest = .mark ',' joined span :: others
              ∧ foldOptions closing option count next others = .ok final) := by
  unfold foldOptions at h
  obtain ⟨⟨path, behind⟩, hpath, h⟩ := bind_eq_ok.mp h
  obtain ⟨⟨next, rest⟩, hnext, h⟩ := bind_eq_ok.mp h
  refine ⟨path, behind, next, rest, hpath, hnext, ?_⟩
  simp only at h
  split at h
  · exact .inl ⟨rfl, Except.ok.inj h⟩
  · exact .inr ⟨_, _, _, rfl, h⟩
  · exact nomatch h

/-- The options of a struct put the names in their lists of keys behind those that came
earlier, by induction on their number.
-/
theorem ListsNames.readOptions {closing : Span} {count : Nat}
    {options final : StructOptions} {cs : List Tree} {names : List String}
    (hoptions : ListsNames options.keys names)
    (hcount : cs.length ≤ count)
    (h : foldOptions closing (structOption closing) count options cs = .ok final)
    : ListsNames final.keys (names ++ (keyLists cs).flatMap keyNames) := by
  induction count generalizing options cs names with
  | zero =>
      obtain rfl := List.eq_nil_of_length_eq_zero (Nat.le_zero.mp hcount)
      obtain rfl := Except.ok.inj h
      rwa [keyLists, List.flatMap_nil, List.append_nil]
  | succ count ih =>
      cases cs with
      | nil =>
          obtain rfl := Except.ok.inj h
          rwa [keyLists, List.flatMap_nil, List.append_nil]
      | cons token cs =>
          obtain ⟨path, behind, next, rest, hpath, hnext, hrest⟩ := foldOptions_succ h
          obtain ⟨lists, hsplit, hshorter, hread⟩ := keyLists_of_structOption hpath hnext
          have hlists := hread names hoptions
          rw [hsplit, List.flatMap_append, ← List.append_assoc]
          rcases hrest with ⟨rfl, rfl⟩ | ⟨joined, span, others, rfl, hothers⟩
          · rwa [keyLists, List.flatMap_nil, List.append_nil]
          · have hlength : others.length ≤ count := by
              simp only [List.length_cons] at hshorter hcount
              omega
            have hbehind := ih hlists hlength hothers
            exact hbehind

-----------------------------------------------------------------------------------------
-- All attributes of an item
-----------------------------------------------------------------------------------------

/-- The attributes of a struct put the names in their lists of keys behind those that came
earlier, by induction on the attributes.
-/
theorem ListsNames.readAttributes {attributes : List Attribute}
    {options final : StructOptions} {names : List String}
    (hoptions : ListsNames options.keys names)
    (h : foldAttributes structOption options attributes = .ok final)
    : ListsNames final.keys
        (names ++ (attributes.flatMap fun a => keyLists a.options).flatMap keyNames) := by
  induction attributes generalizing options names with
  | nil =>
      obtain rfl := Except.ok.inj h
      rwa [List.flatMap_nil, List.flatMap_nil, List.append_nil]
  | cons first others ih =>
      rw [List.flatMap_cons, List.flatMap_append, ← List.append_assoc]
      unfold foldAttributes at h
      split at h
      · next hdsl =>
        split at h
        · exact nomatch h
        · exact nomatch h
        · next tokens closing hcontent =>
          obtain ⟨next, hnext, hothers⟩ := bind_eq_ok.mp h
          refine ih ?_ hothers
          rw [Attribute.options_of_list hdsl hcontent]
          exact hoptions.readOptions (Nat.le_refl _) hnext
      · next hother =>
        refine ih ?_ h
        rwa [Attribute.options_of_other hother, keyLists, List.flatMap_nil, List.append_nil]

/-- The names of an accepted item are those that it writes, each at its first occurrence. -/
theorem Declaration.names_of_ofItem {item : Item} {d : Declaration}
    (h : Declaration.ofItem item = .ok d)
    : d.names = item.writtenNames.eraseDups := by
  unfold Declaration.ofItem at h
  split at h
  · exact nomatch h
  · exact nomatch h
  · exact nomatch h
  · obtain ⟨options, hoptions, h⟩ := bind_eq_ok.mp h
    obtain ⟨withRoles, _, h⟩ := bind_eq_ok.mp h
    obtain ⟨⟨field, role⟩, _, heq⟩ := bind_eq_ok.mp h
    obtain rfl := Except.ok.inj heq
    have hnone : ListsNames [] [] := rfl
    exact hnone.readAttributes hoptions

end DeclaredSettings.Derive
