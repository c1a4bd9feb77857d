import DeclaredSettings.Settings.Error

/-! A property of all keys is kept by every operation on settings, provided that it holds of
the canonical form of every key that the operation brings in.
-/

namespace DeclaredSettings

/-- The keys of an object on its outermost level; other values have none. -/
def Value.memberNames : Value → List String
  | .obj entries => entries.map (·.1)
  | _ => []

namespace Settings

variable {p : String → Prop}

/-- Every name that a value is stored under has the property. -/
def KeysSatisfy (p : String → Prop) (s : Settings) : Prop :=
  ∀ e ∈ s.entries, p e.1

theorem keysSatisfy_empty : empty.KeysSatisfy p :=
  nofun

/-- Putting a value brings in the canonical form of its key alone. -/
theorem KeysSatisfy.put {s : Settings} (h : s.KeysSatisfy p) {key : String}
    (hkey : p (canonical key)) (value : Value)
    : (s.put key value).KeysSatisfy p := by
  intro e he
  rcases Entries.mem_insert he with rfl | he
  · exact hkey
  · exact h e he

theorem KeysSatisfy.assign {s : Settings} (h : s.KeysSatisfy p) {key : String}
    (hkey : p (canonical key)) (value : Value)
    : (s.assign key value).2.KeysSatisfy p := by
  simp only [Settings.assign]
  split
  · exact h
  · exact h.put hkey value

theorem KeysSatisfy.erase {s : Settings} (h : s.KeysSatisfy p) (key : String)
    : (s.erase key).KeysSatisfy p :=
  fun e he => h e (List.mem_filter.mp he).1

theorem KeysSatisfy.merge {s other : Settings} (h : s.KeysSatisfy p)
    (hother : other.KeysSatisfy p)
    : (s.merge other).KeysSatisfy p :=
  fun e he => (Entries.mem_insertAll he).elim (h e) (hother e)

/-- Filling settings in brings in their keys as they are. -/
theorem KeysSatisfy.reverseMerge {s other : Settings} (h : s.KeysSatisfy p)
    (hother : other.KeysSatisfy p)
    : (s.reverseMerge other).KeysSatisfy p :=
  fun e he => (Entries.mem_fillAll he).elim (h e) (hother e)

/-- The keys of settings made of pairs are canonical forms of the given ones, by induction
on the pairs.
-/
theorem keysSatisfy_ofPairs {pairs : List (String × Value)}
    (h : ∀ name ∈ pairs.map (·.1), p (canonical name))
    : (ofPairs pairs).KeysSatisfy p :=
  List.foldlRecOn pairs _ keysSatisfy_empty fun _ hs e he =>
    hs.put (h e.1 (List.mem_map_of_mem he)) e.2

/-- So are those of settings made of a mapping: where it is taken over as it is, every key
is its own canonical form.
-/
theorem keysSatisfy_ofMapping {m : Mapping}
    (h : ∀ name ∈ m.entries.map (·.1), p (canonical name))
    : (ofMapping m).KeysSatisfy p := by
  unfold ofMapping
  split
  · next hshortest =>
    intro e he
    have hcanonical := canonical_eq_of_size_eq (of_decide_eq_true (hshortest e he))
    exact hcanonical ▸ h e.1 (List.mem_map_of_mem he)
  · exact keysSatisfy_ofPairs h

/-- And those of settings made of entries that become a mapping first. -/
theorem keysSatisfy_ofList {entries : List (String × Value)}
    (h : ∀ name ∈ entries.map (·.1), p (canonical name))
    : (ofMapping (.ofList entries)).KeysSatisfy p := by
  apply keysSatisfy_ofMapping
  intro name hname
  obtain ⟨e, he, rfl⟩ := List.mem_map.mp hname
  have hgiven : e ∈ entries := (Entries.mem_insertAll he).resolve_left List.not_mem_nil
  exact h e.1 (List.mem_map_of_mem hgiven)

/-- Reloading brings in the canonical forms of the keys that are there, which are canonical
already and may change once more.
-/
theorem KeysSatisfy.reload {s : Settings} (h : s.KeysSatisfy p)
    (hclosed : ∀ name, p name → p (canonical name))
    : s.reload.KeysSatisfy p :=
  keysSatisfy_ofMapping (List.forall_mem_map.mpr fun e he => hclosed e.1 (h e he))

/-- The keys of settings made of a value are canonical forms of the value's keys. -/
theorem keysSatisfy_ofValue {v : Value} {s : Settings}
    (h : ∀ name ∈ v.memberNames, p (canonical name)) (hmade : ofValue v = .ok s)
    : s.KeysSatisfy p := by
  cases v with
  | obj entries =>
      obtain rfl := Except.ok.inj hmade
      exact keysSatisfy_ofList h
  | _ => nomatch hmade

/-- The keys that a JSON text spells out on its outermost level. -/
def jsonNames (text : String) : List String :=
  match Json.document text with
  | .ok v => v.memberNames
  | .error _ => []

/-- The keys of settings read from a JSON text are canonical forms of the text's keys. -/
theorem keysSatisfy_ofJson {text : String} {s : Settings}
    (h : ∀ name ∈ jsonNames text, p (canonical name)) (hmade : ofJson text = .ok s)
    : s.KeysSatisfy p := by
  cases hdocument : Json.document text with
  | error fault =>
      simp only [ofJson, hdocument] at hmade
      exact nomatch hmade
  | ok v =>
      simp only [ofJson, hdocument] at hmade
      simp only [jsonNames, hdocument] at h
      exact keysSatisfy_ofValue h hmade

/-- The keys that a TOML text spells out on its outermost level. -/
def tomlNames (text : String) : List String :=
  match Toml.document text with
  | some entries => entries.map (·.1)
  | none => []

/-- The keys of settings read from a TOML text are canonical forms of the text's keys. -/
theorem keysSatisfy_ofToml {text : String} {s : Settings}
    (h : ∀ name ∈ tomlNames text, p (canonical name)) (hmade : ofToml text = .ok s)
    : s.KeysSatisfy p := by
  cases hdocument : Toml.document text with
  | none =>
      simp only [ofToml, hdocument] at hmade
      exact nomatch hmade
  | some entries =>
      simp only [ofToml, hdocument] at hmade
      simp only [tomlNames, hdocument] at h
      obtain rfl := Except.ok.inj hmade
      exact keysSatisfy_ofList h

end Settings

end DeclaredSettings
