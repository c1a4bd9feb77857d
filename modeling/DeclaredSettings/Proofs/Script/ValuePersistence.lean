import DeclaredSettings.Proofs.Script.BlockTransparency
import DeclaredSettings.Proofs.Script.SourceLayering

/-! Nothing that is done through an object clears a value. Names are never lost, a value
gives way to null only where a source that configures the object holds null, and reading,
setting to null and filling in leave all values as they are. Direct edits of the settings
are the other way to clear a value, and are left aside.
-/

namespace DeclaredSettings.Script

-----------------------------------------------------------------------------------------
-- What one leaf does
-----------------------------------------------------------------------------------------

/-- Whether a step edits the settings of its object directly. -/
def Step.editsSettings : Step → Bool
  | .settings _ => true
  | _ => false

/-- Whether a leaf puts no value in the place of another: it reads, sets a name to null, or
fills in.
-/
def Step.isQuiet : Step → Bool
  | .set _ value => value.isNull
  | .call _ value => value.isNull
  | .configure _ => false
  | .settings _ => false
  | _ => true

/-- What a leaf can make of settings, direct edits apart. It leaves them, puts a value in
that is not null, or brings a source in, over what is there or under it.
-/
inductive Step.Makes (held : String → Option Settings) (leaf : Step) (s : Settings)
    : Settings → Prop
  | same : Makes held leaf s s
  | put {key : String} {value : Value} (notNull : value ≠ .null)
      (loud : leaf.isQuiet = false)
    : Makes held leaf s (s.put key value)
  | onTop {source : Source} (configures : leaf = .configure source)
    : Makes held leaf s (s.merge (source.contents held))
  | beneath {source : Source} : Makes held leaf s (s.reverseMerge (source.contents held))

theorem isNull_iff {value : Value} : value.isNull = true ↔ value = .null := by
  cases value <;> simp [Value.isNull]

/-- Assigning leaves settings as they are, or puts in a value that is not null. -/
theorem Step.makes_assign (held : String → Option Settings) {leaf : Step} {value : Value}
    (hquiet : leaf.isQuiet = value.isNull) (s : Settings) (key : String)
    : leaf.Makes held s (s.assign key value).2 := by
  unfold Settings.assign
  cases hnull : value.isNull with
  | true => exact .same
  | false =>
      refine .put (fun hvalue => ?_) (hquiet.trans hnull)
      exact Bool.false_ne_true (hnull.symm.trans (isNull_iff.mpr hvalue))

section

variable (around : Surroundings) (named : NamedType)

/-- Every leaf but a direct edit does one of these, by cases on the leaf. -/
theorem Step.makes_of_isLeaf {leaf : Step} (hleaf : leaf.isLeaf = true)
    (hdirect : leaf.editsSettings = false) (s : Settings)
    : leaf.Makes around.held s (leaf.run around named 0 s).settings := by
  cases leaf with
  | set key value => exact makes_assign around.held rfl s key
  | call method value =>
      simp only [run]
      split
      · exact makes_assign around.held rfl s _
      · exact .same
  | settings edit => exact absurd hdirect.symm Bool.false_ne_true
  | configure source =>
      rw [Layering.settings_run_configure]
      exact .onTop rfl
  | reverseMerge source =>
      rw [Layering.settings_run_reverseMerge]
      exact .beneath
  | configureWith _ | configureFrom _ _ | tryConfigureWith _ _ | tryConfigureFrom _ _ _ =>
      exact absurd hleaf Bool.false_ne_true
  | reader key =>
      simp only [run]
      split <;> exact .same
  | basePart =>
      simp only [run]
      split <;> exact .same
  | extract view =>
      cases view with
      | none => exact .same
      | some view =>
          simp only [run]
          split <;> exact .same
  | safely result => cases result <;> exact .same
  | _ => exact .same

end

-----------------------------------------------------------------------------------------
-- What stays while leaves are done
-----------------------------------------------------------------------------------------

/-- What stays of settings in later ones, with some leaves done in between. No name is lost;
a value that gave way to null did so by a source that configures and holds null; and quiet
leaves change no entry.
-/
structure Persists (held : String → Option Settings) (leaves : List Step)
    (s later : Settings)
    : Prop where
  keys : s.keys ⊆ later.keys
  cause
    : ∀ name value,
        s.valueAt name = some value
        → value ≠ .null
        → later.valueAt name = some .null
        → ∃ source,
            .configure source ∈ leaves
            ∧ (source.contents held).valueAt name = some .null
  entries : (∀ leaf ∈ leaves, leaf.isQuiet = true) → s.entries ⊆ later.entries

namespace Persists

variable {held : String → Option Settings}

theorem refl (s : Settings) : Persists held [] s s where
  keys := List.Subset.refl _
  cause _ value hvalue hsome hnull := by
    obtain rfl := Option.some.inj (hvalue.symm.trans hnull)
    exact absurd rfl hsome
  entries _ := List.Subset.refl _

theorem exists_valueAt {leaves : List Step} {s later : Settings}
    (h : Persists held leaves s later) {name : String} {value : Value}
    (hvalue : s.valueAt name = some value)
    : ∃ kept, later.valueAt name = some kept := by
  have hkey : name ∈ s.keys := (s.mem_keys_iff name).mpr (by rw [hvalue]; rfl)
  exact Option.isSome_iff_exists.mp ((later.mem_keys_iff name).mp (h.keys hkey))

/-- What stays over two stretches stays over both. A value that is null in the end was
null in the middle already, or gave way in the second stretch.
-/
theorem append {front back : List Step} {s middle later : Settings}
    (hfront : Persists held front s middle) (hback : Persists held back middle later)
    : Persists held (front ++ back) s later where
  keys := List.Subset.trans hfront.keys hback.keys
  cause name value hvalue hsome hnull := by
    obtain ⟨kept, hkept⟩ := hfront.exists_valueAt hvalue
    -- the name is held in the middle, so the value gave way before or after that
    by_cases hgone : kept = .null
    · obtain ⟨source, hsource, hholds⟩ := hfront.cause name value hvalue hsome (hgone ▸ hkept)
      exact ⟨source, List.mem_append_left _ hsource, hholds⟩
    · obtain ⟨source, hsource, hholds⟩ := hback.cause name kept hkept hgone hnull
      exact ⟨source, List.mem_append_right _ hsource, hholds⟩
  entries hquiet := by
    obtain ⟨hquietFront, hquietBack⟩ := List.forall_mem_append.mp hquiet
    exact List.Subset.trans (hfront.entries hquietFront) (hback.entries hquietBack)

end Persists

/-- Names are kept where every value that is stored is followed by some value. -/
theorem keys_subset_of_valueAt {s later : Settings}
    (h : ∀ name value, s.valueAt name = some value → (later.valueAt name).isSome)
    : s.keys ⊆ later.keys := by
  intro name hname
  obtain ⟨value, hvalue⟩ := Option.isSome_iff_exists.mp ((s.mem_keys_iff name).mp hname)
  exact (later.mem_keys_iff name).mpr (h name value hvalue)

/-- What a single leaf makes of settings stays in this way, by the equation for what each
of its operations stores.
-/
theorem Step.Makes.persists {held : String → Option Settings} {leaf : Step}
    {s later : Settings} (h : leaf.Makes held s later)
    : Persists held [leaf] s later := by
  cases h with
  | same =>
      exact {
        keys := List.Subset.refl _
        cause := fun _ _ hvalue hsome hnull =>
          absurd (Option.some.inj (hvalue.symm.trans hnull)) hsome
        entries := fun _ => List.Subset.refl _ }
  | @put key value hsome hloud =>
      refine ⟨keys_subset_of_valueAt fun name old hold => ?_, ?_, fun hquiet => ?_⟩
      · rw [Settings.valueAt_put, Function.update_apply]
        split
        · rfl
        · rw [hold]
          rfl
      · intro name old hold holdSome hnull
        rw [Settings.valueAt_put, Function.update_apply] at hnull
        split at hnull
        · exact absurd (Option.some.inj hnull) hsome
        · exact absurd (Option.some.inj (hold.symm.trans hnull)) holdSome
      · exact absurd (hloud.symm.trans (hquiet leaf List.mem_cons_self)) Bool.false_ne_true
  | @onTop source hconfigures =>
      subst hconfigures
      refine ⟨keys_subset_of_valueAt fun name old hold => ?_, ?_, fun hquiet => ?_⟩
      · rw [Settings.valueAt_merge, hold, Option.isSome_or]
        simp
      · intro name old hold holdSome hnull
        rw [Settings.valueAt_merge, hold] at hnull
        rcases Option.or_eq_some_iff.mp hnull with hgiven | ⟨_, hown⟩
        · exact ⟨source, List.mem_cons_self, hgiven⟩
        · exact absurd (Option.some.inj hown) holdSome
      · exact absurd (hquiet _ List.mem_cons_self) Bool.false_ne_true
  | @beneath source =>
      have hown : ∀ name old, s.valueAt name = some old
          → (s.reverseMerge (source.contents held)).valueAt name = some old := by
        intro name old hold
        rw [Settings.valueAt_reverseMerge, hold, Option.some_or]
      refine ⟨keys_subset_of_valueAt fun name old hold => ?_, ?_, fun _ e he => ?_⟩
      · rw [hown name old hold]
        rfl
      · intro name old hold holdSome hnull
        exact absurd (Option.some.inj ((hown name old hold).symm.trans hnull)) holdSome
      · exact (Settings.mem_entries_iff _ _ _).mpr
          (hown e.1 e.2 ((s.mem_entries_iff e.1 e.2).mp he))

-----------------------------------------------------------------------------------------
-- What stays over a run
-----------------------------------------------------------------------------------------

variable (around : Surroundings) (named : NamedType)

/-- Leaves in turn keep what each of them keeps, by induction on them. -/
theorem persists_runInTurn {leaves : List Step}
    (hleaves : ∀ leaf ∈ leaves, leaf.isLeaf = true ∧ leaf.editsSettings = false)
    (s : Settings)
    : Persists around.held leaves s (runInTurn around named s leaves).1 := by
  induction leaves generalizing s with
  | nil => exact .refl s
  | cons leaf rest ih =>
      obtain ⟨⟨hleaf, hdirect⟩, hrest⟩ := List.forall_mem_cons.mp hleaves
      exact (Step.makes_of_isLeaf around named hleaf hdirect s).persists.append (ih hrest _)

/-- The leaves that are executed when steps are done in turn, each of which may hold blocks.
-/
def executed (steps : List Step) : List Step :=
  steps.flatMap fun step => (step.course around).leaves

/-- Steps in turn do what their executed leaves do in turn, by induction on the steps. -/
theorem runInTurn_executed (s : Settings) (steps : List Step)
    : runInTurn around named s (executed around steps) = runInTurn around named s steps := by
  induction steps generalizing s with
  | nil => rfl
  | cons step rest ih =>
      have hstep := (run_follows_course around named 0 s step).effect
      rw [executed, List.flatMap_cons, runInTurn_append, ← hstep, runInTurn]
      exact congrArg (fun others : Settings × List Event => (others.1, _ ++ others.2)) (ih _)

theorem exists_of_mem_executed {steps : List Step} {leaf : Step}
    (h : leaf ∈ executed around steps)
    : ∃ step ∈ steps, leaf ∈ step.leaves := by
  obtain ⟨step, hstep, hleaf⟩ := List.mem_flatMap.mp h
  exact ⟨step, hstep, (step.course_sublist around).subset hleaf⟩

/-- Nothing that is done through an object clears a value. Steps in turn, with blocks to any
depth that end in any way, do what their executed leaves do in turn; and if no leaf edits
the settings directly, then between any two moments of that the settings persist.
-/
theorem values_persist (s : Settings) (steps : List Step)
    (hdirect : ∀ step ∈ steps, ∀ leaf ∈ step.leaves, leaf.editsSettings = false)
    : runInTurn around named s steps = runInTurn around named s (executed around steps)
      ∧ ∀ before between after : List Step,
          executed around steps = before ++ between ++ after
          → Persists around.held between (runInTurn around named s before).1
              (runInTurn around named s (before ++ between)).1 := by
  refine ⟨(runInTurn_executed around named s steps).symm, ?_⟩
  intro before between after hsplit
  rw [runInTurn_append]
  refine persists_runInTurn around named (fun leaf hleaf => ?_) _
  have hexecuted : leaf ∈ executed around steps := by
    rw [hsplit]
    exact List.mem_append_left _ (List.mem_append_right _ hleaf)
  obtain ⟨step, hstep, hmem⟩ := exists_of_mem_executed around hexecuted
  exact ⟨step.isLeaf_leaves leaf hmem, hdirect step hstep leaf hmem⟩

/-- Steps that set a name, lay a null over it in front of a block that fails, and fill the
name in again.
-/
def clearingSteps : List Step :=
  [.set ":fat" (.bool true),
    .tryConfigureFrom false (.pairs [("fat", .null)])
      [(.null, .call "fat" .null), (.null, .fail "no boots"), (.null, .set "fat" (.int 1))],
    .reverseMerge (.pairs [("fat", .int 2)])]

/-- The law at these: the name that was true becomes null by the source that configures, and
neither the null that is set in the block nor what is filled in behind it changes the entry
again.
-/
theorem values_persist_to_failed_block
    : (∀ step ∈ clearingSteps, ∀ leaf ∈ step.leaves, leaf.editsSettings = false)
      ∧ (runInTurn (surroundings []) plainPerson .empty clearingSteps).1.valueAt "fat"
        = some .null
      ∧ (∃ source,
          .configure source ∈ (executed (surroundings []) clearingSteps).drop 1
          ∧ (source.contents (surroundings []).held).valueAt "fat" = some .null)
      ∧ ("fat", .null)
        ∈ (runInTurn (surroundings []) plainPerson .empty
            (executed (surroundings []) clearingSteps)).1.entries := by
  have hdirect : ∀ step ∈ clearingSteps, ∀ leaf ∈ step.leaves,
      leaf.editsSettings = false := by
    decide
  obtain ⟨hexecuted, hpersist⟩ :=
    values_persist (surroundings []) plainPerson .empty clearingSteps hdirect
  refine ⟨hdirect, rfl, ?_, ?_⟩
  · have hbehind := hpersist [.set ":fat" (.bool true)]
      ((executed (surroundings []) clearingSteps).drop 1) [] rfl
    exact hbehind.cause "fat" (.bool true) rfl nofun rfl
  · have hquiet := hpersist ((executed (surroundings []) clearingSteps).take 2)
      ((executed (surroundings []) clearingSteps).drop 2) [] rfl
    exact hquiet.entries (by decide) List.mem_cons_self

end DeclaredSettings.Script
