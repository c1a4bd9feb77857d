import Mathlib.Algebra.GroupWithZero.Nat
import Mathlib.Algebra.Order.BigOperators.Group.List
import Mathlib.Algebra.Order.Group.Nat
import Mathlib.Data.Finset.Lattice.Fold
import Mathlib.Logic.Function.Iterate
import Mathlib.Order.Lattice.Nat
import DeclaredSettings.Proofs.Settings.MappingReading
import DeclaredSettings.Proofs.Settings.TextRoundTrip

/-! Settings that are written out and read in again, over and over. Each time the names are
made canonical once more, so symbols lose a colon and may fall together with other names.
As no name gains a colon, this ends after as many rounds as there are colons in a name.
-/

namespace DeclaredSettings

namespace Settings

-----------------------------------------------------------------------------------------
-- One round
-----------------------------------------------------------------------------------------

theorem mem_keys_reload (s : Settings) (name : String)
    : name ∈ s.reload.keys ↔ ∃ key ∈ s.keys, canonical key = name := by
  rw [reload, mem_keys_ofMapping, keys]
  simp only [List.mem_map, exists_exists_and_eq_and]

theorem canonical_of_mem_keys {s : Settings} {key : String} (h : key ∈ s.keys)
    (hplain : ¬ IsSymbol key)
    : canonical key = key :=
  (canonical_eq_self_iff key).mpr ⟨isTidy_of_mem_keys h, hplain⟩

/-- The names after a round are some of the canonical forms of the names before, each only
once.
-/
theorem keys_reload_subperm (s : Settings)
    : s.reload.keys.Subperm (s.keys.map canonical) := by
  refine s.reload.keys_nodup.subperm fun name hname => ?_
  obtain ⟨key, hkey, rfl⟩ := (s.mem_keys_reload name).mp hname
  exact List.mem_map_of_mem hkey

/-- By any measure that makes the canonical form of a symbol smaller, the names of settings
with a symbol are smaller in sum after a round.
-/
theorem sum_keys_reload_lt {measure : String → Nat}
    (hmeasure : ∀ {key}, IsSymbol key → measure (canonical key) < measure key)
    {s : Settings} (hsymbol : ∃ key ∈ s.keys, IsSymbol key)
    : (s.reload.keys.map measure).sum < (s.keys.map measure).sum := by
  have hle : ∀ key ∈ s.keys, measure (canonical key) ≤ measure key := by
    intro key hkey
    by_cases h : IsSymbol key
    · exact Nat.le_of_lt (hmeasure h)
    · rw [canonical_of_mem_keys hkey h]
  obtain ⟨key, hkey, h⟩ := hsymbol
  -- canonical forms that fall together are counted once on the left
  obtain ⟨kept, hperm, hsublist⟩ := s.keys_reload_subperm
  calc (s.reload.keys.map measure).sum
    _ = (kept.map measure).sum := (hperm.map measure).sum_eq.symm
    _ ≤ ((s.keys.map canonical).map measure).sum :=
      (hsublist.map measure).sum_le_sum fun _ _ => Nat.zero_le _
    _ = (s.keys.map fun key => measure (canonical key)).sum := by
      rw [List.map_map]
      rfl
    _ < (s.keys.map measure).sum := List.sum_lt_sum _ _ hle ⟨key, hkey, hmeasure h⟩

/-- A round changes nothing if and only if no name is a symbol, since it makes the names
shorter in sum where one is.
-/
theorem reload_eq_self_iff (s : Settings)
    : s.reload = s ↔ ∀ key ∈ s.keys, ¬ IsSymbol key := by
  constructor
  · intro heq key hkey hsymbol
    have hlt := sum_keys_reload_lt length_canonical_lt ⟨key, hkey, hsymbol⟩
    rw [heq] at hlt
    exact Nat.lt_irrefl _ hlt
  · exact reload_eq_self

theorem exists_symbol_of_reload_ne {s : Settings} (h : s.reload ≠ s)
    : ∃ key ∈ s.keys, IsSymbol key := by
  rw [ne_eq, reload_eq_self_iff] at h
  simpa using h

theorem size_reload_le (s : Settings) : s.reload.size ≤ s.size := by
  have hlength := s.keys_reload_subperm.length_le
  simpa only [keys, List.length_map, size] using hlength

-----------------------------------------------------------------------------------------
-- Many rounds
-----------------------------------------------------------------------------------------

/-- No symbol among the names has more colons than this. -/
def SymbolsWithin (bound : Nat) (s : Settings) : Prop :=
  ∀ key ∈ s.keys, IsSymbol key → colons key ≤ bound

/-- The largest number of colons in a name. -/
def mostColons (s : Settings) : Nat :=
  s.keys.toFinset.sup colons

theorem symbolsWithin_mostColons (s : Settings) : s.SymbolsWithin s.mostColons :=
  fun _ hkey _ => Finset.le_sup (f := colons) (List.mem_toFinset.mpr hkey)

/-- A symbol has a colon, so if no symbol has one then there is no symbol. -/
theorem SymbolsWithin.reload_eq_self {s : Settings} (h : s.SymbolsWithin 0)
    : s.reload = s := by
  rw [reload_eq_self_iff]
  intro key hkey hsymbol
  have hcolons := h key hkey hsymbol
  have hlt := colons_canonical_lt (isTidy_of_mem_keys hkey) hsymbol
  omega

/-- A round takes a colon from every symbol and makes no new symbols. -/
theorem SymbolsWithin.reload {bound : Nat} {s : Settings} (h : s.SymbolsWithin (bound + 1))
    : s.reload.SymbolsWithin bound := by
  intro name hname hsymbol
  obtain ⟨key, hkey, rfl⟩ := (s.mem_keys_reload name).mp hname
  by_cases hkeySymbol : IsSymbol key
  · have hbound := h key hkey hkeySymbol
    have hlt := colons_canonical_lt (isTidy_of_mem_keys hkey) hkeySymbol
    omega
  · -- the name is the key itself, so it would be a symbol that the key is not
    rw [canonical_of_mem_keys hkey hkeySymbol] at hsymbol
    exact absurd hsymbol hkeySymbol

/-- After as many rounds as the bound says a further one changes nothing, by induction on
the bound.
-/
theorem SymbolsWithin.stable {bound : Nat} {s : Settings} (h : s.SymbolsWithin bound)
    : (Settings.reload^[bound] s).reload = Settings.reload^[bound] s := by
  induction bound generalizing s with
  | zero => exact h.reload_eq_self
  | succ bound ih =>
      rw [Function.iterate_succ_apply]
      exact ih h.reload

theorem get_of_reload_eq_self {s : Settings} (h : s.reload = s) {key : String}
    {value : Value} (hmem : (key, value) ∈ s.entries)
    : s.get key = some value := by
  have hkey : key ∈ s.keys := List.mem_map_of_mem hmem
  exact get_of_mem (canonical_of_mem_keys hkey (s.reload_eq_self_iff.mp h key hkey)) hmem

/-- What becomes of settings that are written out and read in again. -/
structure Reloads (s : Settings) : Prop where
  /-- A value of the settings is read so, also as data, and so are settings out of the
  settings.
  -/
  ways
    : ofValue s.toValue = .ok s.reload
      ∧ deserialize s.toValue = .ok s.reload
      ∧ s.extract .settings = .ok s.reload.toValue
  names : ∀ name, name ∈ s.reload.keys ↔ ∃ key ∈ s.keys, canonical key = name
  values
    : ∀ name value,
        s.reload.valueAt name = some value ↔ GreatestFor s.entries name value
  unchanged : s.reload = s ↔ ∀ key ∈ s.keys, ¬ IsSymbol key
  /-- The names become shorter in sum, in characters and in bytes. -/
  shorter
    : s.reload ≠ s
      → (s.reload.keys.map String.length).sum < (s.keys.map String.length).sum
        ∧ (s.reload.keys.map String.utf8ByteSize).sum
          < (s.keys.map String.utf8ByteSize).sum
  size : s.reload.size ≤ s.size
  stable
    : (Settings.reload^[s.mostColons] s).reload = Settings.reload^[s.mostColons] s
  settled
    : ∀ rounds,
        s.mostColons ≤ rounds
        → Settings.reload^[rounds] s = Settings.reload^[s.mostColons] s
  found
    : ∀ rounds key value,
        s.mostColons ≤ rounds
        → (key, value) ∈ (Settings.reload^[rounds] s).entries
        → (Settings.reload^[rounds] s).get key = some value

/-- Reloading settings makes their names canonical once more, with the value of the greatest
of those that fall together. It shortens the names until there are no symbols left, which
is so after as many rounds as the largest number of colons in a name.
-/
theorem reload_shortens_until_stable (s : Settings) : s.Reloads := by
  have hstable := s.symbolsWithin_mostColons.stable
  have hsettled : ∀ rounds, s.mostColons ≤ rounds
      → Settings.reload^[rounds] s = Settings.reload^[s.mostColons] s := by
    intro rounds hrounds
    obtain ⟨further, rfl⟩ := Nat.exists_eq_add_of_le' hrounds
    rw [Function.iterate_add_apply, Function.iterate_fixed hstable]
  constructor
  case ways =>
    refine ⟨s.ofValue_toValue, s.deserialize_toValue, ?_⟩
    simp only [extract, View.read, s.deserialize_toValue]
    rfl
  case names => exact s.mem_keys_reload
  case values => exact valueAt_ofMapping_iff s.toMapping
  case unchanged => exact s.reload_eq_self_iff
  case shorter =>
    intro hchanged
    have hsymbol := exists_symbol_of_reload_ne hchanged
    exact ⟨sum_keys_reload_lt length_canonical_lt hsymbol,
      sum_keys_reload_lt utf8ByteSize_canonical_lt hsymbol⟩
  case size => exact s.size_reload_le
  case stable => exact hstable
  case settled => exact hsettled
  case found =>
    intro rounds key value hrounds hmem
    rw [hsettled rounds hrounds] at hmem ⊢
    exact get_of_reload_eq_self hstable hmem

/-- Settings with symbols that fall together with one another and with plain names. -/
def collapsing : Settings :=
  .ofPairs [("1", .int 1), ("::1", .int 2), (":::a", .int 3), ("::a", .int 4)]

theorem entries_collapsing
    : collapsing.entries
      = [("1", .int 1), (":1", .int 2), ("::a", .int 3), (":a", .int 4)] :=
  rfl

/-- The law at these. In the first round the value of `:1` takes the place of that of `1`,
and `::a` becomes what `:a` was; after the second one nothing changes any more.
-/
theorem reload_shortens_until_stable_collapsing
    : collapsing.reload.valueAt "1" = some (.int 2)
      ∧ collapsing.reload ≠ collapsing
      ∧ (collapsing.reload.keys.map String.length).sum
        < (collapsing.keys.map String.length).sum
      ∧ (Settings.reload^[3] collapsing).get "a" = some (.int 4) := by
  have hlaw := reload_shortens_until_stable collapsing
  have hchanged : collapsing.reload ≠ collapsing := by
    rw [ne_eq, hlaw.unchanged]
    intro hplain
    exact hplain ":a" (by simp [keys, entries_collapsing]) rfl
  refine ⟨?_, hchanged, (hlaw.shorter hchanged).1, ?_⟩
  · refine (hlaw.values _ _).mpr ⟨":1", by simp [entries_collapsing], rfl, ?_⟩
    simp only [entries_collapsing, List.forall_mem_cons]
    decide
  · refine hlaw.found 3 "a" (.int 4) (by decide) ?_
    have hentries : (Settings.reload^[3] collapsing).entries
        = [("1", .int 2), ("a", .int 4)] := rfl
    rw [hentries]
    simp

end Settings

end DeclaredSettings
