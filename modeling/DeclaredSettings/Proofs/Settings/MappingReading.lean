import Mathlib.Data.List.Induction
import DeclaredSettings.Proofs.Settings.SpellingInvariance
import DeclaredSettings.Script.Step

/-! Which of several spellings of a name counts. Pairs are put in one after the other, so
the last one counts. The entries of a mapping come in the order of their keys, so there it
is the one with the greatest key, by whatever way the mapping is read.
-/

namespace DeclaredSettings

-----------------------------------------------------------------------------------------
-- The last pair for a name
-----------------------------------------------------------------------------------------

/-- The last of the pairs with a key that stands for the name has this value. -/
def LastFor (pairs : List (String × Value)) (name : String) (value : Value) : Prop :=
  ∃ front key back,
    pairs = front ++ (key, value) :: back
    ∧ canonical key = name
    ∧ ∀ e ∈ back, canonical e.1 ≠ name

/-- The greatest of the keys that stand for the name has this value. -/
def GreatestFor (entries : List (String × Value)) (name : String) (value : Value) : Prop :=
  ∃ key, (key, value) ∈ entries
    ∧ canonical key = name
    ∧ ∀ e ∈ entries, canonical e.1 = name → e.1 ≤ key

theorem not_lastFor_nil (name : String) (value : Value) : ¬ LastFor [] name value := by
  rintro ⟨front, key, back, hsplit, _⟩
  simp at hsplit

/-- A pair behind all others is the last for the name that its key stands for, and makes no
difference to the other names.
-/
theorem lastFor_concat {pairs : List (String × Value)} {e : String × Value} {name : String}
    {value : Value}
    : LastFor (pairs ++ [e]) name value
      ↔ if canonical e.1 = name then e.2 = value else LastFor pairs name value := by
  constructor
  · rintro ⟨front, key, back, hsplit, hkey, hback⟩
    rcases List.eq_nil_or_concat' back with rfl | ⟨back, last, rfl⟩
    · obtain ⟨_, hlast⟩ := List.append_inj' hsplit rfl
      obtain rfl := List.singleton_inj.mp hlast
      rw [if_pos hkey]
    · rw [← List.cons_append, ← List.append_assoc] at hsplit
      obtain ⟨hpairs, hlast⟩ := List.append_inj' hsplit rfl
      obtain rfl := List.singleton_inj.mp hlast
      rw [if_neg (hback e (by simp))]
      exact ⟨front, key, back, hpairs, hkey,
        fun f hf => hback f (List.mem_append_left _ hf)⟩
  · split
    · next hname =>
      rintro rfl
      exact ⟨pairs, e.1, [], rfl, hname, nofun⟩
    · next hname =>
      rintro ⟨front, key, back, rfl, hkey, hback⟩
      refine ⟨front, key, back ++ [e], by simp, hkey, ?_⟩
      intro f hf
      rcases List.mem_append.mp hf with hf | hf
      · exact hback f hf
      · rwa [List.mem_singleton.mp hf]

/-- Among ascending entries the last one for a name is the one with the greatest key. -/
theorem lastFor_iff_greatestFor {entries : List (String × Value)}
    (h : Entries.Ascending entries) (name : String) (value : Value)
    : LastFor entries name value ↔ GreatestFor entries name value := by
  constructor
  · rintro ⟨front, key, back, rfl, hkey, hback⟩
    obtain ⟨_, _, hbefore⟩ := List.pairwise_append.mp h
    refine ⟨key, by simp, hkey, ?_⟩
    intro e he hname
    rcases List.mem_append.mp he with he | he
    · exact String.not_lt.mp (String.lt_asymm (hbefore e he _ List.mem_cons_self))
    · rcases List.mem_cons.mp he with rfl | he
      · exact String.le_refl _
      · exact absurd hname (hback e he)
  · rintro ⟨key, hmem, hkey, hgreatest⟩
    obtain ⟨front, back, rfl⟩ := List.append_of_mem hmem
    obtain ⟨_, hentry, _⟩ := List.pairwise_append.mp h
    refine ⟨front, key, back, rfl, hkey, ?_⟩
    intro e he hname
    -- an entry behind has a greater key, which then would not stand for the name
    have hlt : key < e.1 := (List.pairwise_cons.mp hentry).1 e he
    exact String.not_le.mpr hlt (hgreatest e (by simp [he]) hname)

namespace Settings

-----------------------------------------------------------------------------------------
-- What settings of pairs hold
-----------------------------------------------------------------------------------------

theorem ofPairs_concat (pairs : List (String × Value)) (e : String × Value)
    : ofPairs (pairs ++ [e]) = (ofPairs pairs).put e.1 e.2 :=
  List.foldl_append

/-- Settings of pairs hold under each name the value of the last pair for it, by induction
on the pairs from their end.
-/
theorem valueAt_ofPairs_iff (pairs : List (String × Value)) (name : String) (value : Value)
    : (ofPairs pairs).valueAt name = some value ↔ LastFor pairs name value := by
  induction pairs using List.reverseRecOn with
  | nil => simpa [ofPairs] using not_lastFor_nil name value
  | append_singleton pairs e ih =>
      rw [ofPairs_concat, valueAt_put, Function.update_apply, lastFor_concat]
      by_cases hname : canonical e.1 = name
      · simp [hname]
      · rw [if_neg (Ne.symm hname), if_neg hname, ih]

/-- The names of settings of pairs are those that the keys stand for. -/
theorem mem_keys_ofPairs (pairs : List (String × Value)) (name : String)
    : name ∈ (ofPairs pairs).keys ↔ ∃ e ∈ pairs, canonical e.1 = name := by
  induction pairs using List.reverseRecOn with
  | nil => simp [mem_keys_iff, ofPairs]
  | append_singleton pairs e ih =>
      rw [mem_keys_iff] at ih ⊢
      rw [ofPairs_concat, valueAt_put, Function.update_apply]
      by_cases hname : canonical e.1 = name
      · simp [hname]
      · rw [if_neg (Ne.symm hname), ih]
        simp [hname]

/-- Settings of a mapping hold under each name the value of the greatest key for it. -/
theorem valueAt_ofMapping_iff (m : Mapping) (name : String) (value : Value)
    : (ofMapping m).valueAt name = some value ↔ GreatestFor m.entries name value := by
  rw [ofMapping_eq_ofPairs, valueAt_ofPairs_iff, lastFor_iff_greatestFor m.ascending]

theorem mem_keys_ofMapping (m : Mapping) (name : String)
    : name ∈ (ofMapping m).keys ↔ ∃ e ∈ m.entries, canonical e.1 = name := by
  rw [ofMapping_eq_ofPairs, mem_keys_ofPairs]

end Settings

-----------------------------------------------------------------------------------------
-- Ways to read a mapping
-----------------------------------------------------------------------------------------

namespace Mapping

/-- Entries that are listed in any order are gathered into the mapping that they are of:
no two have one key, so they are only rearranged.
-/
theorem ofList_of_perm {m : Mapping} {listed : List (String × Value)}
    (h : listed.Perm m.entries)
    : ofList listed = m := by
  have hdistinct : (listed.map (·.1)).Nodup := by
    rw [(h.map _).nodup_iff]
    refine List.Pairwise.map _ (fun e f hlt heq => ?_) m.ascending
    exact String.lt_irrefl _ (heq ▸ hlt)
  have hperm : (ofList listed).entries.Perm m.entries :=
    (Entries.insertAll_perm hdistinct).trans h
  have hentries : (ofList listed).entries = m.entries := by
    refine hperm.eq_of_pairwise (fun e f _ _ hlt hgt => ?_) (ofList listed).ascending
      m.ascending
    exact absurd hgt (String.lt_asymm hlt)
  obtain ⟨entries, ascending⟩ := m
  obtain rfl : (ofList listed).entries = entries := hentries
  rfl

/-- All ways to read a mapping give the same settings, and these hold under each name the
value of the greatest key that stands for it.
-/
structure ReadAlike (m : Mapping) : Prop where
  /-- Putting the entries in one by one is taking the mapping over as a whole. -/
  entrywise : Settings.ofPairs m.entries = Settings.ofMapping m
  /-- A document may list the entries in any order. -/
  listed
    : ∀ listed : List (String × Value),
        listed.Perm m.entries
        → Settings.ofMapping (ofList listed) = Settings.ofMapping m
          ∧ Settings.ofValue (.obj listed) = .ok (Settings.ofMapping m)
  /-- So may a value that is read as data. -/
  deserialized
    : ∀ listed : List (String × Value),
        listed.Perm m.entries
        → Settings.deserialize (.obj listed) = .ok (Settings.ofMapping m)
  documents
    : ∀ text listed,
        listed.Perm m.entries
        → (Json.document text = .ok (.obj listed)
            → Settings.ofJson text = .ok (Settings.ofMapping m))
          ∧ (Toml.document text = some listed
            → Settings.ofToml text = .ok (Settings.ofMapping m))
  sources
    : ∀ held,
        Script.Source.read held (.value (.obj m.entries)) = .ok (Settings.ofMapping m)
        ∧ Script.Source.read held (.mapping m) = .ok (Settings.ofMapping m)
        ∧ Script.Source.read held (.entrywise m) = .ok (Settings.ofMapping m)
  names
    : ∀ name,
        name ∈ (Settings.ofMapping m).keys ↔ ∃ e ∈ m.entries, canonical e.1 = name
  values
    : ∀ name value,
        (Settings.ofMapping m).valueAt name = some value
        ↔ GreatestFor m.entries name value
  /-- Where all keys stand for different names, the entries may be put in in any order. -/
  anyOrder
    : Settings.ApartKeys m.entries
      → ∀ pairs : List (String × Value),
          pairs.Perm m.entries
          → Settings.ofPairs pairs = Settings.ofMapping m
            ∧ ∀ held, Script.Source.read held (.pairs pairs) = .ok (Settings.ofMapping m)

theorem readAlike (m : Mapping) : m.ReadAlike := by
  have hentrywise : Settings.ofPairs m.entries = Settings.ofMapping m :=
    (Settings.ofMapping_eq_ofPairs m).symm
  have hlisted : ∀ listed : List (String × Value), listed.Perm m.entries
      → Settings.ofValue (.obj listed) = .ok (Settings.ofMapping m) := by
    intro listed hperm
    simp only [Settings.ofValue, Value.toMapping?, ofList_of_perm hperm]
  constructor
  case entrywise => exact hentrywise
  case listed =>
    intro listed hperm
    exact ⟨by rw [ofList_of_perm hperm], hlisted listed hperm⟩
  case deserialized =>
    intro listed hperm
    simp only [Settings.deserialize, Value.toMapping?, ofList_of_perm hperm]
  case documents =>
    intro text listed hperm
    constructor
    · intro hdocument
      simp only [Settings.ofJson, hdocument, hlisted listed hperm]
    · intro hdocument
      simp only [Settings.ofToml, hdocument, ofList_of_perm hperm]
  case sources =>
    intro held
    refine ⟨?_, rfl, ?_⟩
    · simp only [Script.Source.read, hlisted m.entries (.refl _)]
      rfl
    · simp only [Script.Source.read, hentrywise]
  case names => exact Settings.mem_keys_ofMapping m
  case values => exact Settings.valueAt_ofMapping_iff m
  case anyOrder =>
    intro hapart pairs hperm
    have hpairs : Settings.ofPairs pairs = Settings.ofMapping m := by
      rw [← Settings.ofPairs_perm hapart hperm.symm, hentrywise]
    exact ⟨hpairs, fun held => by simp only [Script.Source.read, hpairs]⟩

end Mapping

/-- Every mapping is read alike by all ways to read one, and settings of pairs hold under
each name that a key stands for the value of the last such pair.
-/
theorem mappings_read_alike
    : (∀ m : Mapping, m.ReadAlike)
      ∧ ∀ pairs : List (String × Value),
          (∀ name,
            name ∈ (Settings.ofPairs pairs).keys ↔ ∃ e ∈ pairs, canonical e.1 = name)
          ∧ ∀ name value,
              (Settings.ofPairs pairs).valueAt name = some value
              ↔ LastFor pairs name value := by
  refine ⟨Mapping.readAlike, fun pairs => ⟨?_, ?_⟩⟩
  · exact Settings.mem_keys_ofPairs pairs
  · exact Settings.valueAt_ofPairs_iff pairs

/-- A mapping with several spellings of two names. White space behind a name makes it
greater; a colon in front makes it smaller than `a` and greater than `1`.
-/
def severalSpellings : Mapping :=
  .ofList [("a ", .int 1), ("a", .int 2), (":a", .int 3), ("1", .int 4), (":1", .int 5)]

/-- A mapping with one spelling of each name. -/
def singleSpellings : Mapping :=
  .ofList [(" b", .null), (":a", .int 1)]

/-- The law at these mappings, and at pairs of which the last one counts though its key is
not the greatest.
-/
theorem mappings_read_alike_spellings
    : (Settings.ofMapping severalSpellings).valueAt "a" = some (.int 1)
      ∧ (Settings.ofMapping severalSpellings).valueAt "1" = some (.int 5)
      ∧ Settings.ofPairs [(":a", .int 1), (" b", .null)]
        = Settings.ofMapping singleSpellings
      ∧ Settings.deserialize (.obj [(":a", .int 1), (" b", .null)])
        = .ok (Settings.ofMapping singleSpellings)
      ∧ (Settings.ofPairs [("a ", .int 1), (":a", .int 2)]).valueAt "a"
        = some (.int 2) := by
  obtain ⟨hmappings, hpairs⟩ := mappings_read_alike
  have hentries : severalSpellings.entries
      = [("1", .int 4), (":1", .int 5), (":a", .int 3), ("a", .int 2), ("a ", .int 1)] := rfl
  refine ⟨?_, ?_, ?_, ?_, ?_⟩
  · refine ((hmappings severalSpellings).values _ _).mpr ⟨"a ", ?_, rfl, ?_⟩
    · simp [hentries]
    · simp only [hentries, List.forall_mem_cons]
      decide
  · refine ((hmappings severalSpellings).values _ _).mpr ⟨":1", ?_, rfl, ?_⟩
    · simp [hentries]
    · simp only [hentries, List.forall_mem_cons]
      decide
  · have hapart : Settings.ApartKeys singleSpellings.entries := by
      simp only [Settings.ApartKeys]
      decide
    exact ((hmappings singleSpellings).anyOrder hapart _ (.swap _ _ _)).1
  · exact (hmappings singleSpellings).deserialized _ (.swap _ _ _)
  · refine ((hpairs _).2 _ _).mpr ⟨[("a ", .int 1)], ":a", [], rfl, rfl, ?_⟩
    simp only [List.not_mem_nil, false_implies, implies_true]

end DeclaredSettings
