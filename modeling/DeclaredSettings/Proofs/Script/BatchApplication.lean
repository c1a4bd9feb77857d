import DeclaredSettings.Proofs.Script.SourceLayering
import DeclaredSettings.Proofs.Settings.MappingReading

/-! Settings brought in all at once and settings brought in one by one. Merging is
associative, so batches may be joined first, and merging settings of pairs is putting the
pairs in one after the other, although the keys are made canonical while the settings are
made and not while they are merged.
-/

namespace DeclaredSettings

namespace Settings

-----------------------------------------------------------------------------------------
-- Merging settings with settings
-----------------------------------------------------------------------------------------

/-- Filling in is merging the other way round: either way the own value counts. -/
theorem reverseMerge_eq_merge (s other : Settings) : s.reverseMerge other = other.merge s := by
  refine eq_of_valueAt_eq fun name => ?_
  rw [valueAt_reverseMerge, valueAt_merge]

theorem merge_assoc (s first second : Settings)
    : (s.merge first).merge second = s.merge (first.merge second) := by
  refine eq_of_valueAt_eq fun name => ?_
  simp only [valueAt_merge, Option.or_assoc]

theorem merge_empty (s : Settings) : s.merge empty = s :=
  eq_of_valueAt_eq fun name => by rw [valueAt_merge, valueAt_empty, Option.none_or]

theorem empty_merge (s : Settings) : empty.merge s = s :=
  eq_of_valueAt_eq fun name => by rw [valueAt_merge, valueAt_empty, Option.or_none]

theorem merge_self (s : Settings) : s.merge s = s :=
  eq_of_valueAt_eq fun name => by rw [valueAt_merge, Option.or_self]

/-- How merging and filling in compose. -/
structure MergeLaws (s first second : Settings) : Prop where
  flipped : s.reverseMerge first = first.merge s
  merged : (s.merge first).merge second = s.merge (first.merge second)
  filledIn
    : (s.reverseMerge first).reverseMerge second
      = s.reverseMerge (first.reverseMerge second)
  neutral : s.merge empty = s ∧ empty.merge s = s
  neutralBeneath : s.reverseMerge empty = s ∧ empty.reverseMerge s = s
  idempotent : s.merge s = s ∧ s.reverseMerge s = s
  /-- The same source a second time changes nothing. -/
  repeated
    : (s.merge first).merge first = s.merge first
      ∧ (s.reverseMerge first).reverseMerge first = s.reverseMerge first

theorem mergeLaws (s first second : Settings) : s.MergeLaws first second where
  flipped := reverseMerge_eq_merge s first
  merged := merge_assoc s first second
  filledIn := by simp only [reverseMerge_eq_merge, merge_assoc]
  neutral := ⟨merge_empty s, empty_merge s⟩
  neutralBeneath := by
    rw [reverseMerge_eq_merge, reverseMerge_eq_merge]
    exact ⟨empty_merge s, merge_empty s⟩
  idempotent := by
    rw [reverseMerge_eq_merge]
    exact ⟨merge_self s, merge_self s⟩
  repeated := by
    constructor
    · rw [merge_assoc, merge_self]
    · rw [reverseMerge_eq_merge, reverseMerge_eq_merge, ← merge_assoc, merge_self]

-----------------------------------------------------------------------------------------
-- Merging settings with pairs
-----------------------------------------------------------------------------------------

/-- A value that is put into what is laid over might as well be put in afterwards. -/
theorem merge_put (s other : Settings) (key : String) (value : Value)
    : s.merge (other.put key value) = (s.merge other).put key value := by
  refine eq_of_valueAt_eq fun name => ?_
  rw [valueAt_merge, valueAt_put, valueAt_put, Function.update_apply, Function.update_apply,
    valueAt_merge]
  split
  · exact Option.some_or
  · rfl

/-- Merging settings of pairs is inserting the pairs in order, by induction on the pairs
from their end.
-/
theorem merge_ofPairs (s : Settings) (pairs : List (String × Value))
    : s.merge (ofPairs pairs) = pairs.foldl (fun s e => (s.insert e.1 e.2).2) s := by
  induction pairs using List.reverseRecOn with
  | nil => exact merge_empty s
  | append_singleton pairs e ih =>
      rw [ofPairs_concat, merge_put, ih, List.foldl_append]
      rfl

/-- Settings of two lists of pairs in one are those of the first with those of the second
merged in.
-/
theorem ofPairs_append (front back : List (String × Value))
    : ofPairs (front ++ back) = (ofPairs front).merge (ofPairs back) := by
  rw [merge_ofPairs, ofPairs, List.foldl_append]
  rfl

end Settings

namespace Script

-----------------------------------------------------------------------------------------
-- Steps on an object
-----------------------------------------------------------------------------------------

/-- The steps that insert pairs in order into the settings of an object. -/
def insertEach (pairs : List (String × Value)) : List Step :=
  pairs.map fun e => .settings (.insert e.1 e.2)

/-- The steps that set the names of pairs in order. -/
def setEach (pairs : List (String × Value)) : List Step :=
  pairs.map fun e => .set e.1 e.2

variable (around : Surroundings) (named : NamedType)

theorem runInTurn_insertEach (s : Settings) (pairs : List (String × Value))
    : (runInTurn around named s (insertEach pairs)).1
      = pairs.foldl (fun s e => (s.insert e.1 e.2).2) s := by
  induction pairs generalizing s with
  | nil => rfl
  | cons e pairs ih => exact ih (s.put e.1 e.2)

/-- Setting names to values that are not null puts these in, by induction on the pairs. -/
theorem runInTurn_setEach {pairs : List (String × Value)}
    (h : ∀ e ∈ pairs, e.2.isNull = false) (s : Settings)
    : (runInTurn around named s (setEach pairs)).1
      = pairs.foldl (fun s e => (s.insert e.1 e.2).2) s := by
  induction pairs generalizing s with
  | nil => rfl
  | cons e pairs ih =>
      obtain ⟨hfirst, hpairs⟩ := List.forall_mem_cons.mp h
      have hassign : (s.assign e.1 e.2).2 = s.put e.1 e.2 := by
        simp only [Settings.assign, hfirst, Bool.false_eq_true, if_false]
      have hset : ((Step.set e.1 e.2).run around named 0 s).settings = s.put e.1 e.2 := by
        simp only [Step.run, ObjectType.setThrough, hassign]
      calc (runInTurn around named s (setEach (e :: pairs))).1
        _ = (runInTurn around named (s.put e.1 e.2) (setEach pairs)).1 := by
          simp only [setEach, List.map_cons, runInTurn, Run.effect, hset]
        _ = (e :: pairs).foldl (fun s e => (s.insert e.1 e.2).2) s := ih hpairs _

/-- The settings of an object after it is configured with settings of pairs. -/
def configuredWith (s : Settings) (pairs : List (String × Value)) : Settings :=
  (runInTurn around named s [.configure (.pairs pairs)]).1

theorem configuredWith_eq_merge (s : Settings) (pairs : List (String × Value))
    : configuredWith around named s pairs = s.merge (.ofPairs pairs) := by
  rw [configuredWith, runInTurn_singleton]
  exact Layering.settings_run_configure around named 0 s (.pairs pairs)

/-- Batches compose, and bring in what their pairs bring in one by one: through the settings
of an object, or by setting its names if no value is null.
-/
theorem batches_compose
    : (∀ s first second : Settings, s.MergeLaws first second)
      ∧ (∀ (around : Surroundings) (named : NamedType) (s : Settings)
          (pairs : List (String × Value)),
          configuredWith around named s pairs = s.merge (.ofPairs pairs)
          ∧ configuredWith around named s pairs
            = pairs.foldl (fun s e => (s.insert e.1 e.2).2) s
          ∧ configuredWith around named s pairs
            = (runInTurn around named s (insertEach pairs)).1
          ∧ ((∀ e ∈ pairs, e.2.isNull = false)
            → configuredWith around named s pairs
              = (runInTurn around named s (setEach pairs)).1))
      ∧ ∀ front back : List (String × Value),
          Settings.ofPairs (front ++ back)
          = (Settings.ofPairs front).merge (Settings.ofPairs back) := by
  refine ⟨Settings.mergeLaws, ?_, Settings.ofPairs_append⟩
  intro around named s pairs
  have hmerge := configuredWith_eq_merge around named s pairs
  have hinserted := hmerge.trans (s.merge_ofPairs pairs)
  refine ⟨hmerge, hinserted, ?_, fun hsome => ?_⟩
  · rw [hinserted, runInTurn_insertEach]
  · rw [hinserted, runInTurn_setEach around named hsome]

/-- Pairs with several spellings of one name, and with a symbol that stands for another. -/
def spelledPairs : List (String × Value) :=
  [("::a", .int 1), (" a", .bool true), (":a ", .int 2)]

/-- The law at these: whether they configure an object or are set one by one, the last of
the spellings of `a` counts, the symbol `:a` stays apart, and so they do in two batches.
-/
theorem batches_compose_spelled
    : (∀ e ∈ spelledPairs, e.2.isNull = false)
      ∧ (runInTurn ⟨fun _ => none, fun _ => none⟩ ⟨.root ⟨"Mom", []⟩, .null⟩
            (.ofPairs [("a", .null), ("b", .null)]) (setEach spelledPairs)).1.entries
        = [(":a", .int 1), ("a", .int 2), ("b", .null)]
      ∧ (Settings.ofPairs (spelledPairs.take 2)).merge (.ofPairs (spelledPairs.drop 2))
        = Settings.ofPairs spelledPairs := by
  have hsome : ∀ e ∈ spelledPairs, e.2.isNull = false := by
    simp only [spelledPairs, List.forall_mem_cons]
    exact ⟨rfl, rfl, rfl, nofun⟩
  obtain ⟨_, happlied, hbatches⟩ := batches_compose
  obtain ⟨hmerge, _, _, hset⟩ := happlied ⟨fun _ => none, fun _ => none⟩
    ⟨.root ⟨"Mom", []⟩, .null⟩ (.ofPairs [("a", .null), ("b", .null)]) spelledPairs
  refine ⟨hsome, ?_, (hbatches _ _).symm⟩
  rw [← hset hsome, hmerge]
  rfl

end Script

end DeclaredSettings
