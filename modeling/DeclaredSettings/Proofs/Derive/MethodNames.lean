import Mathlib.Data.Finset.Max
import DeclaredSettings.Proofs.Derive.GeneratedCode
import DeclaredSettings.Proofs.Derive.NameLaw

/-! The names of the methods that stand in the code of one declaration. There is a setter for
each declared name, and a reader where no setter is called like it, so no two methods share
a name. A longest name always has a reader, since the name of this is longer still.
-/

namespace DeclaredSettings.Derive.Declaration

open Outcome

-----------------------------------------------------------------------------------------
-- Setters and readers apart
-----------------------------------------------------------------------------------------

/-- The setter of a key. -/
def setterOf (key : DeclaredKey) : Method :=
  ⟨key.ident, .setter, key.name⟩

/-- The reader of a key. -/
def readerOf (key : DeclaredKey) : Method :=
  ⟨.plain (Accessor.readerName key.name), .reader, key.name⟩

/-- Whether no setter of some names is called like the reader of a key. -/
def hasReader (names : List String) (key : DeclaredKey) : Bool :=
  Accessor.readerName key.name ∉ names

section Kinds

variable {names : List String} {keys : List DeclaredKey} {lists : List (List Method)}

/-- The setters among the methods of keys are one for each, in order; by induction on the
keys.
-/
theorem filter_setter_flatten
    (h : List.Forall₂ (fun key methods => methodsOf names key = .ok methods) keys lists)
    : lists.flatten.filter (·.kind = .setter) = keys.map setterOf := by
  induction h with
  | nil => rfl
  | cons hmethods _ ih =>
      rw [List.flatten_cons, List.filter_append, ih, (methodsOf_eq_ok hmethods).2]
      split <;> rfl

/-- The readers among them are those of the keys that have one, by the same induction. -/
theorem filter_reader_flatten
    (h : List.Forall₂ (fun key methods => methodsOf names key = .ok methods) keys lists)
    : lists.flatten.filter (·.kind = .reader)
      = (keys.filter (hasReader names)).map readerOf := by
  induction h with
  | nil => rfl
  | @cons key methods keys lists hmethods _ ih =>
      rw [List.flatten_cons, List.filter_append, ih, (methodsOf_eq_ok hmethods).2]
      split
      · next htaken =>
        have hnone : ¬ hasReader names key = true := by simpa [hasReader] using htaken
        rw [List.filter_cons_of_neg hnone]
        rfl
      · next hfresh =>
        have hsome : hasReader names key = true := by simpa [hasReader] using hfresh
        rw [List.filter_cons_of_pos hsome]
        rfl

/-- Every method is a setter or a reader. -/
theorem setters_append_readers_perm (methods : List Method)
    : (methods.filter (·.kind = .setter) ++ methods.filter (·.kind = .reader)).Perm
        methods := by
  have hrest : (fun method : Method => decide (method.kind = .reader))
      = fun method => !decide (method.kind = .setter) := by
    funext method
    cases hkind : method.kind <;> rfl
  rw [hrest]
  exact List.filter_append_perm _ methods

end Kinds

-----------------------------------------------------------------------------------------
-- Names
-----------------------------------------------------------------------------------------

/-- The names of methods that are the setters of some keys and the readers of those that
have one do not repeat, if the names of the keys do not.
-/
theorem nodup_method_names {keys : List DeclaredKey} {methods : List Method}
    (hkeys : (keys.map (·.name)).Nodup) (hident : ∀ key ∈ keys, key.ident.name = key.name)
    (hsetters : methods.filter (·.kind = .setter) = keys.map setterOf)
    (hreaders
      : methods.filter (·.kind = .reader)
        = (keys.filter (hasReader (keys.map (·.name)))).map readerOf)
    : (methods.map (·.ident.name)).Nodup := by
  have hperm := (setters_append_readers_perm methods).map (·.ident.name)
  refine hperm.nodup_iff.mp ?_
  rw [List.map_append, hsetters, hreaders, List.map_map, List.map_map]
  have hnames : keys.map ((·.ident.name) ∘ setterOf) = keys.map (·.name) :=
    List.map_congr_left hident
  rw [hnames]
  refine List.nodup_append.mpr ⟨hkeys, ?_, ?_⟩
  · -- readers of different names are called differently
    have hread : ((keys.filter (hasReader (keys.map (·.name)))).map (·.name)).Nodup :=
      hkeys.sublist (List.filter_sublist.map _)
    have hcalled := hread.map (f := Accessor.readerName) fun _ _ => Accessor.readerName_inj
    rwa [List.map_map] at hcalled
  · rintro name hname reader hreader rfl
    obtain ⟨key, hkey, rfl⟩ := List.mem_map.mp hreader
    have hfresh := (List.mem_filter.mp hkey).2
    simp only [hasReader, decide_eq_true_eq] at hfresh
    exact hfresh hname

/-- Some name has a reader that no setter is called like: the longest one. -/
theorem exists_readerName_not_mem {names : List String} (h : names ≠ [])
    : ∃ name ∈ names, Accessor.readerName name ∉ names := by
  obtain ⟨first, hfirst⟩ := List.exists_mem_of_ne_nil names h
  obtain ⟨longest, hlongest, hmost⟩ :=
    names.toFinset.exists_max_image String.length ⟨first, List.mem_toFinset.mpr hfirst⟩
  refine ⟨longest, List.mem_toFinset.mp hlongest, fun hreader => ?_⟩
  have hle := hmost _ (List.mem_toFinset.mpr hreader)
  rw [Accessor.readerName, String.length_append] at hle
  have hmark : "get_".length = 4 := rfl
  omega

-----------------------------------------------------------------------------------------
-- The methods of a declaration
-----------------------------------------------------------------------------------------

/-- The methods of a declaration cover its keys and have names of their own. -/
structure CoversKeys (d : Declaration) (methods : List Method) : Prop where
  /-- Each key has one setter, in order of declaration. -/
  setters : methods.filter (·.kind = .setter) = d.keys.map setterOf
  /-- Those keys have one reader that no key is called like. -/
  readers
    : methods.filter (·.kind = .reader) = (d.keys.filter (hasReader d.names)).map readerOf
  read
    : ∀ name ∈ d.names,
        (∃ method ∈ methods, method.kind = .reader ∧ method.key = name)
        ↔ Accessor.readerName name ∉ d.names
  /-- No two keys have one name, and the setters are called by these, raw where they are
  keywords.
  -/
  keys : d.names.Nodup
  called : d.CallsByName
  /-- No two methods are called alike, whether they are raw or not. -/
  distinct : (methods.map (·.ident.name)).Nodup
  /-- A key has two methods, or one where its reader is kept out. -/
  count
    : methods.length + (d.names.filter (Accessor.readerName · ∈ d.names)).length
      = 2 * d.keys.length
  someReader : d.keys ≠ [] → ∃ method ∈ methods, method.kind = .reader

/-- The code of some methods: one implementation in which these are read and nothing else,
each with its name, its kind and the key that its body names, or no code where there are none.
-/
def EmitsExactly (d : Declaration) (methods : List Method) : Prop :=
  methods = [] ∧ accessorImpl d methods = []
  ∨ ∃ content,
      accessorImpl d methods = [.token "impl", .ident d.ident, .braces content]
      ∧ methods? d.runtimePath d.visibility content = some methods

theorem emitsExactly_of_isLegible (d : Declaration) {methods : List Method}
    (h : ∀ method ∈ methods, method.IsLegible)
    : d.EmitsExactly methods := by
  cases methods with
  | nil => exact .inl ⟨rfl, rfl⟩
  | cons first others =>
      exact .inr ⟨(first :: others).flatMap (methodCode d), rfl, methods?_flatMap d h⟩

/-- Each of the keys without a reader makes one method less. -/
theorem length_methods {d : Declaration} {methods : List Method}
    (hsetters : methods.filter (·.kind = .setter) = d.keys.map setterOf)
    (hreaders
      : methods.filter (·.kind = .reader) = (d.keys.filter (hasReader d.names)).map readerOf)
    : methods.length + (d.names.filter (Accessor.readerName · ∈ d.names)).length
      = 2 * d.keys.length := by
  have hlength := (setters_append_readers_perm methods).length_eq
  rw [List.length_append, hsetters, hreaders, List.length_map, List.length_map] at hlength
  have hwithout : d.names.filter (Accessor.readerName · ∈ d.names)
      = (d.keys.filter fun key => !hasReader d.names key).map (·.name) := by
    refine List.filter_map.trans (congrArg (List.map _) (List.filter_congr fun key _ => ?_))
    simp only [hasReader, Function.comp_apply, decide_not, Bool.not_not]
  have hall := (List.filter_append_perm (hasReader d.names) d.keys).length_eq
  rw [List.length_append] at hall
  rw [hwithout, List.length_map]
  omega

/-- A key has a reader among the methods if and only if it is one of those that have one. -/
theorem exists_reader_iff {d : Declaration} {methods : List Method}
    (hreaders
      : methods.filter (·.kind = .reader) = (d.keys.filter (hasReader d.names)).map readerOf)
    {name : String} (hname : name ∈ d.names)
    : (∃ method ∈ methods, method.kind = .reader ∧ method.key = name)
      ↔ Accessor.readerName name ∉ d.names := by
  constructor
  · rintro ⟨method, hmethod, hkind, rfl⟩
    have hmem : method ∈ (d.keys.filter (hasReader d.names)).map readerOf :=
      hreaders ▸ List.mem_filter.mpr ⟨hmethod, decide_eq_true hkind⟩
    obtain ⟨key, hkey, rfl⟩ := List.mem_map.mp hmem
    exact of_decide_eq_true (List.mem_filter.mp hkey).2
  · intro hfresh
    obtain ⟨key, hkey, rfl⟩ := List.mem_map.mp hname
    have hmem : readerOf key ∈ methods.filter (·.kind = .reader) :=
      hreaders ▸ List.mem_map_of_mem (List.mem_filter.mpr ⟨hkey, decide_eq_true hfresh⟩)
    exact ⟨readerOf key, (List.mem_filter.mp hmem).1, rfl, rfl⟩

variable {d : Declaration}

/-- The methods that are generated for a declaration are read from the code that it is
expanded to, where they stand in one implementation; they cover its keys and do not clash.
-/
theorem expanded_covers_keys (h : d.Expanded)
    : ∃ methods tokens code,
        d.methods = .ok methods
        ∧ expansion d = .ok tokens
        ∧ typeCode? d.runtimePath d.visibility tokens = some code
        ∧ code.methods = methods
        ∧ tokens
          = objectImpl d ++ accessorImpl d methods ++ defaultImpl d ++ displayImpl d
            ++ sourceImpl d ++ derefImpls d
        ∧ d.EmitsExactly methods
        ∧ d.CoversKeys methods := by
  obtain ⟨item, hitem⟩ := h.accepted
  obtain ⟨lists, hlists, hmethods⟩ := h.exists_methods
  have hsetters := filter_setter_flatten hlists
  have hreaders := filter_reader_flatten hlists
  have husable := (exists_expansion_iff hitem).mp h.generated
  have hnames : d.names.Nodup := names_of_ofItem hitem ▸ nodup_eraseDups _
  have hlegible := h.isLegible hmethods
  have htokens : expansion d = .ok (objectImpl d ++ accessorImpl d lists.flatten
      ++ defaultImpl d ++ displayImpl d ++ sourceImpl d ++ derefImpls d) := by
    rw [expansion, hmethods]
    rfl
  refine ⟨lists.flatten, _, d.typeCode lists.flatten, hmethods, htokens,
    typeCode?_expansion d hlegible, rfl, rfl, d.emitsExactly_of_isLegible hlegible, ?_⟩
  constructor
  case setters => exact hsetters
  case readers => exact hreaders
  case read => exact fun name => exists_reader_iff hreaders
  case keys => exact hnames
  case called => exact callsByName_of_isUsable hitem husable
  case distinct =>
    exact nodup_method_names hnames (fun key hkey => (h.ident_name key hkey).2) hsetters
      hreaders
  case count => exact length_methods hsetters hreaders
  case someReader =>
    intro hkeys
    have hsome : d.names ≠ [] := by simpa [names] using hkeys
    obtain ⟨name, hname, hfresh⟩ := exists_readerName_not_mem hsome
    obtain ⟨method, hmethod, hkind, _⟩ := (exists_reader_iff hreaders hname).mpr hfresh
    exact ⟨method, hmethod, hkind⟩

/-- The item of `#[dsl(keys(type, x, get_x, get_get_x))] struct T { settings: Settings }`. -/
def readersItem : Item :=
  oneListItem [.ident (.plain "type") ⟨0, 0⟩, .mark ',' false ⟨0, 0⟩,
    .ident (.plain "x") ⟨0, 0⟩, .mark ',' false ⟨0, 0⟩,
    .ident (.plain "get_x") ⟨0, 0⟩, .mark ',' false ⟨0, 0⟩,
    .ident (.plain "get_get_x") ⟨0, 0⟩]

/-- The law at these keys: the first is a keyword, and two of the others are called like
readers, so that six methods are read from the code.
-/
theorem expanded_covers_keys_readers
    : ∃ d tokens code methods,
        ofItem readersItem = .ok d
        ∧ d.Expanded
        ∧ expansion d = .ok tokens
        ∧ typeCode? d.runtimePath d.visibility tokens = some code
        ∧ code.methods = methods
        ∧ (methods.filter (·.kind = .setter)).map (·.ident.text)
          = ["r#type", "x", "get_x", "get_get_x"]
        ∧ (methods.filter (·.kind = .reader)).map (·.ident.text)
          = ["get_type", "get_get_get_x"]
        ∧ methods.length = 6
        ∧ (methods.map (·.ident.name)).Nodup := by
  have haccepted : ofItem readersItem = .ok
      ⟨.plain "T", [], [⟨"type", ⟨true, "type"⟩⟩, ⟨"x", .plain "x"⟩,
        ⟨"get_x", .plain "get_x"⟩, ⟨"get_get_x", .plain "get_get_x"⟩],
        .settings (.plain "settings"), [], none⟩ :=
    rfl
  have hexpanded : Expanded _ := ⟨⟨readersItem, haccepted⟩, ⟨_, rfl⟩⟩
  obtain ⟨methods, tokens, code, _, htokens, hcode, hmethods, _, _, hlaw⟩ :=
    expanded_covers_keys hexpanded
  have hcount : methods.length + 2 = 6 + 2 := hlaw.count
  refine ⟨_, tokens, code, methods, haccepted, hexpanded, htokens, hcode, hmethods, ?_, ?_,
    ?_, hlaw.distinct⟩
  · rw [hlaw.setters]
    rfl
  · rw [hlaw.readers]
    decide
  · exact Nat.add_right_cancel hcount

end DeclaredSettings.Derive.Declaration
