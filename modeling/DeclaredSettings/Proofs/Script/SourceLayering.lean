import DeclaredSettings.Proofs.Script.DirectRun
import DeclaredSettings.Proofs.Settings.StoredValues

/-! Sources lie in three layers. What configures an object lies over what the object had at
first, the last source on top; what fills it in lies under that, the first source on top.
The layers do not depend on how the two ways of bringing sources in are interleaved.
-/

namespace DeclaredSettings.Script

/-- The settings that a source brings in; one that gives no settings brings in none. -/
def Source.contents (held : String → Option Settings) (source : Source) : Settings :=
  match source.read held with
  | .ok given => given
  | .error _ => .empty

/-- A way of bringing a source in: over everything that is there, or under it. -/
inductive Layering where
  | configure (source : Source)
  | reverseMerge (source : Source)

namespace Layering

/-- The step on an object that brings the source in. -/
def step : Layering → Step
  | configure source => .configure source
  | reverseMerge source => .reverseMerge source

variable (held : String → Option Settings)

/-- The settings that are laid over, if any are. -/
def over? : Layering → Option Settings
  | configure source => some (source.contents held)
  | reverseMerge _ => none

/-- The settings that are laid under, if any are. -/
def under? : Layering → Option Settings
  | configure _ => none
  | reverseMerge source => some (source.contents held)

/-- The value of a name in the layers: in the last settings laid over that hold it, else in
the settings at first, else in the first settings laid under that hold it.
-/
def value (s : Settings) (layers : List Layering) (key : String) : Option Value :=
  ((layers.filterMap (over? held)).reverse.findSome? (·.get key)).or
    ((s.get key).or ((layers.filterMap (under? held)).findSome? (·.get key)))

/-- Configuring an object lays the source's settings over its own. -/
theorem settings_run_configure (around : Surroundings) (named : NamedType) (depth : Nat)
    (s : Settings) (source : Source)
    : ((Step.configure source).run around named depth s).settings
      = s.merge (source.contents around.held) := by
  cases hread : source.read around.held with
  | ok given => simp only [Step.run, Source.contents, hread, configured]
  | error fault =>
      simp only [Step.run, Source.contents, hread]
      refine Settings.eq_of_valueAt_eq fun name => ?_
      rw [Settings.valueAt_merge, Settings.valueAt_empty, Option.none_or]

/-- Filling an object in lays the source's settings under its own. -/
theorem settings_run_reverseMerge (around : Surroundings) (named : NamedType)
    (depth : Nat) (s : Settings) (source : Source)
    : ((Step.reverseMerge source).run around named depth s).settings
      = s.reverseMerge (source.contents around.held) := by
  cases hread : source.read around.held with
  | ok given => simp only [Step.run, Source.contents, hread, filledIn]
  | error fault =>
      simp only [Step.run, Source.contents, hread]
      refine Settings.eq_of_valueAt_eq fun name => ?_
      rw [Settings.valueAt_reverseMerge, Settings.valueAt_empty, Option.or_none]

/-- A source that is laid over first of all might as well lie in the settings at first. -/
theorem value_configure_cons (s : Settings) (source : Source) (rest : List Layering)
    (key : String)
    : value held s (configure source :: rest) key
      = value held (s.merge (source.contents held)) rest key := by
  have hget : (s.merge (source.contents held)).get key
      = ((source.contents held).get key).or (s.get key) :=
    Settings.valueAt_merge _ _ _
  have hlast : (((source.contents held) :: rest.filterMap (over? held)).reverse.findSome?
        (·.get key))
      = ((rest.filterMap (over? held)).reverse.findSome? (·.get key)).or
          ((source.contents held).get key) := by
    rw [List.reverse_cons, List.findSome?_append, List.findSome?_singleton]
  simp only [value, List.filterMap_cons, over?, under?, hlast, hget, Option.or_assoc]

/-- So might a source that is laid under first of all. -/
theorem value_reverseMerge_cons (s : Settings) (source : Source) (rest : List Layering)
    (key : String)
    : value held s (reverseMerge source :: rest) key
      = value held (s.reverseMerge (source.contents held)) rest key := by
  have hget : (s.reverseMerge (source.contents held)).get key
      = (s.get key).or ((source.contents held).get key) :=
    Settings.valueAt_reverseMerge _ _ _
  have hfirst : (((source.contents held) :: rest.filterMap (under? held)).findSome?
        (·.get key))
      = ((source.contents held).get key).or
          ((rest.filterMap (under? held)).findSome? (·.get key)) := by
    rw [← List.singleton_append, List.findSome?_append, List.findSome?_singleton]
  simp only [value, List.filterMap_cons, over?, under?, hfirst, hget, Option.or_assoc]

/-- A run that brings sources in leaves under every name the value of the layers, by
induction on the run with the settings at its start.
-/
theorem get_runInTurn (around : Surroundings) (named : NamedType) (s : Settings)
    (layers : List Layering) (key : String)
    : (runInTurn around named s (layers.map step)).1.get key
      = value around.held s layers key := by
  induction layers generalizing s with
  | nil => simp [runInTurn, value]
  | cons layering rest ih =>
      simp only [List.map_cons, runInTurn, Run.effect, ih]
      cases layering with
      | configure source => rw [step, settings_run_configure, value_configure_cons]
      | reverseMerge source =>
          rw [step, settings_run_reverseMerge, value_reverseMerge_cons]

/-- Exchanging two neighbours of different kinds leaves the layers as they are. -/
theorem value_swap (s : Settings) (front back : List Layering) (upper lower : Source)
    (key : String)
    : value held s (front ++ configure upper :: reverseMerge lower :: back) key
      = value held s (front ++ reverseMerge lower :: configure upper :: back) key := by
  simp only [value, List.filterMap_append, List.filterMap_cons, over?, under?]

/-- The layering law: whatever the order of configuring and filling in, every name has the
value of the layers in the end, and exchanging two neighbours of different kinds anywhere
in the run changes no settings.
-/
theorem layering_law (around : Surroundings) (named : NamedType) (s : Settings)
    : (∀ (layers : List Layering) (key : String),
        (runInTurn around named s (layers.map step)).1.get key
        = value around.held s layers key)
      ∧ ∀ (front back : List Layering) (upper lower : Source),
          (runInTurn around named s
            ((front ++ configure upper :: reverseMerge lower :: back).map step)).1
          = (runInTurn around named s
              ((front ++ reverseMerge lower :: configure upper :: back).map step)).1 := by
  refine ⟨get_runInTurn around named s, ?_⟩
  intro front back upper lower
  refine Settings.eq_of_get_eq fun key => ?_
  rw [get_runInTurn, get_runInTurn, value_swap]

end Layering

end DeclaredSettings.Script
