import DeclaredSettings.Proofs.Script.GivenKeys
import DeclaredSettings.Proofs.Settings.StoredValues

/-! Every listed key can be reached. Whatever made settings and whatever was done to them,
their keys ascend and are canonical spellings, and the symbol spelling of a key addresses
the key's own entry and no other.
-/

namespace DeclaredSettings

namespace Settings

/-- Settings whose keys ascend strictly and are canonical spellings, and whose every entry
is addressed by the symbol spelling of its key.
-/
structure Addressable (s : Settings) : Prop where
  ascending : s.keys.Pairwise (· < ·)
  distinct : s.keys.Nodup
  trimmed : ∀ key ∈ s.keys, IsTidy key
  spelt : ∀ key ∈ s.keys, ∃ spelling, canonical spelling = key
  found
    : ∀ key value,
        (key, value) ∈ s.entries
        → s.get (":" ++ key) = some value ∧ s.containsKey (":" ++ key) = true
  removed
    : ∀ front key value back,
        s.entries = front ++ (key, value) :: back
        → (s.remove (":" ++ key)).1 = some value
          ∧ (s.remove (":" ++ key)).2.entries = front ++ back

/-- All settings are addressable: their keys ascend and are tidy, and a tidy key is what
its symbol spelling stands for.
-/
theorem addressable (s : Settings) : s.Addressable where
  ascending := s.keys_ascending
  distinct := s.keys_nodup
  trimmed _ hkey := isTidy_of_mem_keys hkey
  spelt key hkey := (exists_canonical_iff key).mpr (isTidy_of_mem_keys hkey)
  found key value h := by
    have hget := get_of_mem (canonical_symbol (s.tidy _ h)) h
    exact ⟨hget, by rw [containsKey, hget, Option.isSome_some]⟩
  removed front key value back h := by
    have hmem : (key, value) ∈ s.entries := by simp [h]
    have hspelling := canonical_symbol (s.tidy _ hmem)
    exact ⟨get_of_mem hspelling hmem, entries_erase_of_split hspelling h⟩

end Settings

namespace Script

/-- In every state that a script reaches all settings are addressable: in each register
after any commands, and on an object after any step or block, however deep it stands and
however it ended. What the registers hold after a script from none on is stored under
what the script's own spellings become.
-/
theorem reached_settings_addressable
    : (∀ (registers : Registers) (commands : List Command),
        ∀ register ∈ registersAfter registers commands, register.2.contents.Addressable)
      ∧ (∀ (around : Surroundings) (named : NamedType) (depth : Nat) (s : Settings),
          (∀ step : Step, (step.run around named depth s).settings.Addressable)
          ∧ ∀ block : Block, (runBlock around named depth s block).settings.Addressable)
      ∧ ∀ commands : List Command,
          ∀ register ∈ registersAfter [] commands, ∀ key ∈ register.2.contents.keys,
            ComesFrom (commands.flatMap Command.spellings) key := by
  refine ⟨?_, ?_, ?_⟩
  · exact fun registers commands register _ => register.2.contents.addressable
  · intro around named depth s
    exact ⟨fun step => Settings.addressable _, fun block => Settings.addressable _⟩
  · exact fun commands register hregister key hkey => comesFrom_of_mem_keys hregister hkey

/-- Commands that make an object with two symbols in its keys and run a block on it that
panics at its end.
-/
def panickingCommands : List Command :=
  [⟨.null, "mom", .new "Mom" (some (.pairs [("::a", .int 1), (" b ", .null)]))⟩,
    ⟨.null, "mom", .step .unknown
      (.configureFrom (.pairs [(":b", .int 2)])
        [(.null, .set " :c" (.int 3)), (.null, .panic "stop")])⟩]

/-- The state after these: the object lists `:a`, `b` and `c`, the spelling `::a` takes the
entry for `:a` out and no other, and `:a` comes from a given spelling.
-/
theorem reached_settings_addressable_after_panic
    : ("mom", .object ⟨NamedType.mom, .null⟩
          (.ofPairs [("::a", .int 1), ("b", .int 2), ("c", .int 3)]))
        ∈ registersAfter [] panickingCommands
      ∧ ((Settings.ofPairs [("::a", .int 1), ("b", .int 2), ("c", .int 3)]).remove
            "::a").2.entries
        = [("b", .int 2), ("c", .int 3)]
      ∧ ComesFrom ["::a", " b ", ":b", " :c"] ":a" := by
  have hreached : (("mom", .object ⟨NamedType.mom, .null⟩
        (.ofPairs [("::a", .int 1), ("b", .int 2), ("c", .int 3)])) : String × Held)
      ∈ registersAfter [] panickingCommands :=
    List.mem_singleton.mpr rfl
  obtain ⟨haddressable, _, hcomesFrom⟩ := reached_settings_addressable
  refine ⟨hreached, ?_, ?_⟩
  · exact ((haddressable [] _ _ hreached).removed [] ":a" (.int 1) _ rfl).2
  · exact hcomesFrom panickingCommands _ hreached ":a" List.mem_cons_self

end Script

end DeclaredSettings
