import DeclaredSettings.Script.Object

/-! Steps done one after another directly on an object, with the settings that they leave
and the events that they log. A direct run goes on whatever way a step ends.
-/

namespace DeclaredSettings.Script

/-- The events of what happened, in order and without the finished steps. -/
def logged (trace : List Entry) : List Event :=
  trace.filterMap fun entry =>
    match entry with
    | .logged event => some event
    | .finished .. => none

theorem logged_append (first second : List Entry)
    : logged (first ++ second) = logged first ++ logged second :=
  List.filterMap_append

/-- A logged entry is the first event. -/
@[simp]
theorem logged_cons_logged (event : Event) (trace : List Entry)
    : logged (.logged event :: trace) = event :: logged trace :=
  rfl

/-- A finished step is no event. -/
@[simp]
theorem logged_cons_finished (depth : Nat) (label : Value) (answer : Answer)
    (state : Option String) (trace : List Entry)
    : logged (.finished depth label answer state :: trace) = logged trace :=
  rfl

/-- What a run does to its object: the settings that it leaves and the events that it logs.
-/
def Run.effect {ε : Type} (run : Run ε) : Settings × List Event :=
  (run.settings, logged run.trace)

variable (around : Surroundings) (named : NamedType)

/-- Does steps one after another on an object: the settings at the end, and the events. -/
def runInTurn (s : Settings) : List Step → Settings × List Event
  | [] => (s, [])
  | step :: steps =>
    let first := (step.run around named 0 s).effect
    let rest := runInTurn first.1 steps
    (rest.1, first.2 ++ rest.2)

theorem runInTurn_singleton (s : Settings) (step : Step)
    : runInTurn around named s [step] = (step.run around named 0 s).effect := by
  simp only [runInTurn, List.append_nil]

/-- Steps in turn go on from where the first ones end, by induction on these. -/
theorem runInTurn_append (s : Settings) (front back : List Step)
    : runInTurn around named s (front ++ back)
      = ((runInTurn around named (runInTurn around named s front).1 back).1,
          (runInTurn around named s front).2
          ++ (runInTurn around named (runInTurn around named s front).1 back).2) := by
  induction front generalizing s with
  | nil => rfl
  | cons step front ih =>
      simp only [List.cons_append, runInTurn, ih, List.append_assoc]

end DeclaredSettings.Script
