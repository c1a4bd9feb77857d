import DeclaredSettings.Proofs.Schema.DeclaredNames
import DeclaredSettings.Proofs.Script.GivenKeys
import DeclaredSettings.Proofs.Settings.StoredValues

/-! Names that are handed out and then used as spellings. A listed name without a colon in
front addresses what it was listed for. One with a colon in front is a spelling of another
name, since canonicalising takes the colon off.
-/

namespace DeclaredSettings

/-- A name is what its own text stands for if and only if this is no symbol. -/
theorem Name.of_text_eq_iff (name : Name)
    : Name.of name.text = name ↔ ¬ IsSymbol name.text := by
  have hself := canonical_eq_self_iff name.text
  exact Name.ext_iff.trans (hself.trans (and_iff_right name.tidy))

/-- Settings that find by a listed key what is listed with it, where the key is no symbol.
A symbol among the keys is passed by: what it addresses is stored under a shorter name,
and taking that out leaves the symbol's entry where it is.
-/
structure Settings.FoundByKeys (s : Settings) : Prop where
  found
    : ∀ key value,
        (key, value) ∈ s.entries
        → ¬ IsSymbol key
        → s.get key = some value ∧ s.containsKey key = true
  removed
    : ∀ front key value back,
        s.entries = front ++ (key, value) :: back
        → ¬ IsSymbol key
        → (s.remove key).1 = some value ∧ (s.remove key).2.entries = front ++ back
  passedBy
    : ∀ key value,
        (key, value) ∈ s.entries
        → IsSymbol key
        → (canonical key).toList.length < key.toList.length
          ∧ (key, value) ∈ (s.remove key).2.entries

theorem Settings.foundByKeys (s : Settings) : s.FoundByKeys where
  found key value h hplain := by
    have hspelling := (canonical_eq_self_iff key).mpr ⟨s.tidy _ h, hplain⟩
    have hget := get_of_mem hspelling h
    exact ⟨hget, by rw [containsKey, hget, Option.isSome_some]⟩
  removed front key value back h hplain := by
    have hmem : (key, value) ∈ s.entries := by simp [h]
    have hspelling := (canonical_eq_self_iff key).mpr ⟨s.tidy _ hmem, hplain⟩
    exact ⟨get_of_mem hspelling hmem, entries_erase_of_split hspelling h⟩
  passedBy key value h hsymbol := by
    have hne : key ≠ canonical key := fun heq =>
      ((canonical_eq_self_iff key).mp heq.symm).2 hsymbol
    refine ⟨?_, List.mem_filter.mpr ⟨h, by simpa using hne⟩⟩
    rw [canonical, String.toList_ofList]
    exact length_canonicalChars_lt hsymbol

/-- A schema that finds its names by their texts, where these are no symbols. A symbol
among the names is not equal to its text as a spelling, which is found only where the
shorter name that it stands for is listed as well.
-/
structure Schema.FoundByNames (schema : Schema) : Prop where
  found
    : ∀ name ∈ schema.names,
        ¬ IsSymbol name.text
        → schema.contains name.text = true
          ∧ name.agrees name.text = true
          ∧ Name.of name.text = name
  passedBy
    : ∀ name ∈ schema.names,
        IsSymbol name.text
        → name.agrees name.text = false
          ∧ Name.of name.text ≠ name
          ∧ (schema.contains name.text = true ↔ Name.of name.text ∈ schema.names)

theorem Schema.foundByNames (schema : Schema) : schema.FoundByNames where
  found name hname hplain := by
    have hself := name.of_text_eq_iff.mpr hplain
    exact ⟨(schema.contains_iff _).mpr (by rwa [hself]), (name.agrees_iff _).mpr hself,
      hself⟩
  passedBy name hname hsymbol := by
    have hother : Name.of name.text ≠ name := fun hself =>
      name.of_text_eq_iff.mp hself hsymbol
    refine ⟨?_, hother, schema.contains_iff _⟩
    rw [← Bool.not_eq_true, name.agrees_iff]
    exact hother

/-- Names that are handed out without a colon in front address what they were handed out
for, and those with one address something else. So it is for the settings in all registers
after any commands, for those of an object after any step, for the schemas in all
registers after any steps on schemas, and for the schema of every type of objects.
-/
theorem handed_out_names_address
    : (∀ (registers : Script.Registers) (commands : List Script.Command),
        ∀ register ∈ Script.registersAfter registers commands,
          register.2.contents.FoundByKeys)
      ∧ (∀ (around : Script.Surroundings) (named : Script.NamedType) (depth : Nat)
            (s : Settings) (step : Script.Step),
          (step.run around named depth s).settings.FoundByKeys)
      ∧ (∀ (registry : Schema.Registry) (steps : List (String × Schema.Step)),
          ∀ register ∈ Schema.registryAfter registry steps, register.2.FoundByNames)
      ∧ ∀ t : ObjectType, t.schema.FoundByNames := by
  refine ⟨?_, ?_, ?_, ?_⟩
  · exact fun registers commands register _ => register.2.contents.foundByKeys
  · exact fun around named depth s step => Settings.foundByKeys _
  · exact fun registry steps register _ => register.2.foundByNames
  · exact fun t => t.schema.foundByNames

/-- A command that makes settings in which one of two keys is a symbol. -/
def symbolCommands : List Script.Command :=
  [⟨.null, "s", .new "Settings" (some (.pairs [("::a", .int 1), (" b", .null)]))⟩]

/-- A step that makes a schema in which one of two names is a symbol. -/
def symbolSteps : List (String × Schema.Step) :=
  [("m", .new "Mom" ["::a", ":b"])]

/-- The law at these: `b` finds its null value and takes its own entry out, `:a` leaves its
entry where it is, and of the two names of the schema only `b` is found by its text.
-/
theorem handed_out_names_address_beside_symbol
    : ("s", .settings (.ofPairs [("::a", .int 1), ("b", .null)]))
        ∈ Script.registersAfter [] symbolCommands
      ∧ (Settings.ofPairs [("::a", .int 1), ("b", .null)]).get "b" = some .null
      ∧ ((Settings.ofPairs [("::a", .int 1), ("b", .null)]).remove "b").2.entries
        = [(":a", .int 1)]
      ∧ (":a", .int 1)
        ∈ ((Settings.ofPairs [("::a", .int 1), ("b", .null)]).remove ":a").2.entries
      ∧ ("m", ⟨"Mom", ["::a", "b"]⟩) ∈ Schema.registryAfter [] symbolSteps
      ∧ (Schema.mk "Mom" ["::a", "b"]).contains "b" = true
      ∧ (Name.of "::a").agrees ":a" = false := by
  have hsettings : (("s", .settings (.ofPairs [("::a", .int 1), ("b", .null)])) : _)
      ∈ Script.registersAfter [] symbolCommands :=
    List.mem_singleton.mpr rfl
  have hschema : (("m", ⟨"Mom", ["::a", "b"]⟩) : String × Schema)
      ∈ Schema.registryAfter [] symbolSteps :=
    List.mem_singleton.mpr (by decide)
  obtain ⟨hcommands, _, hsteps, _⟩ := handed_out_names_address
  have hkeys := hcommands [] symbolCommands _ hsettings
  have hnames := hsteps [] symbolSteps _ hschema
  refine ⟨hsettings, ?_, ?_, ?_, hschema, ?_, ?_⟩
  · exact (hkeys.found "b" .null (List.mem_of_getElem? (i := 1) rfl) (by decide)).1
  · exact (hkeys.removed [(":a", .int 1)] "b" .null [] rfl (by decide)).2
  · exact (hkeys.passedBy ":a" (.int 1) List.mem_cons_self (by decide)).2
  · exact (hnames.found "b" (by decide) (by decide)).1
  · exact (hnames.passedBy "::a" (by decide) (by decide)).1

/-- Not every listed name addresses what it was listed for: settings that a command makes
from the spelling `::a`, and a schema that declares it, list the name `:a`, under which
they find nothing.
-/
theorem listed_symbol_not_found
    : ("s", .settings (.ofPairs [("::a", .int 1)]))
        ∈ Script.registersAfter []
          [⟨.null, "s", .new "Settings" (some (.pairs [("::a", .int 1)]))⟩]
      ∧ (":a", .int 1) ∈ (Settings.ofPairs [("::a", .int 1)]).entries
      ∧ (Settings.ofPairs [("::a", .int 1)]).get ":a" = none
      ∧ (Settings.ofPairs [("::a", .int 1)]).containsKey ":a" = false
      ∧ (":a", .int 1) ∈ ((Settings.ofPairs [("::a", .int 1)]).remove ":a").2.entries
      ∧ (Schema.new "Mom" ["::a"]).names.map Name.text = [":a"]
      ∧ (Schema.new "Mom" ["::a"]).contains ":a" = false
      ∧ (Name.of "::a").agrees ":a" = false
      ∧ Name.of ":a" ≠ Name.of "::a" := by
  refine ⟨List.mem_singleton.mpr rfl, List.mem_singleton.mpr rfl, rfl, rfl,
    List.mem_singleton.mpr rfl, ?_⟩
  decide

end DeclaredSettings
