import DeclaredSettings.Script.Command
import DeclaredSettings.Proofs.Script.BlockCourse

/-! Blocks are transparent: a step with blocks in it leaves the settings and the events of
its executed leaves, done in turn directly on the object. Failures and panics keep exactly
what was done before them.
-/

namespace DeclaredSettings.Script

variable (around : Surroundings) (named : NamedType)

-----------------------------------------------------------------------------------------
-- Leaves and endings
-----------------------------------------------------------------------------------------

/-- The depth makes no difference to a leaf, which has no steps in it to place. -/
theorem run_of_isLeaf {step : Step} (h : step.isLeaf = true) (depth : Nat) (s : Settings)
    : step.run around named depth s = step.run around named 0 s := by
  cases step with
  | configureWith _ | configureFrom _ _ | tryConfigureWith _ _ | tryConfigureFrom _ _ _ =>
      exact absurd h Bool.false_ne_true
  | extract view => cases view <;> rfl
  | safely result => cases result <;> rfl
  | _ => rfl

/-- A leaf ends for its block as its kind says, whatever it answers. -/
theorem forBlock_run_of_isLeaf {step : Step} (h : step.isLeaf = true) (depth : Nat)
    (s : Settings)
    : (step.run around named depth s).ending.forBlock = step.leafEnding := by
  cases step with
  | configureWith _ | configureFrom _ _ | tryConfigureWith _ _ | tryConfigureFrom _ _ _ =>
      exact absurd h Bool.false_ne_true
  | call method value => simp only [Step.run]; split <;> rfl
  | reader key => simp only [Step.run]; split <;> rfl
  | basePart => simp only [Step.run]; split <;> rfl
  | extract view =>
      cases view with
      | none => rfl
      | some view => simp only [Step.run]; split <;> rfl
  | safely result => cases result <;> rfl
  | configure source => simp only [Step.run]; split <;> rfl
  | reverseMerge source => simp only [Step.run]; split <;> rfl
  | _ => rfl

/-- A step that passes failures over ends as its block without the failure. -/
theorem forBlock_plainEnding (t : ObjectType) (run : Run BlockEnding)
    : (plainEnding t run).forBlock = run.ending.withoutFailure := by
  cases hending : run.ending <;> simp only [plainEnding, hending] <;> rfl

/-- A step that tries its block ends as the block, or without the failure. -/
theorem forBlock_tryEnding (t : ObjectType) (propagate : Bool) (run : Run BlockEnding)
    : (tryEnding t propagate run).forBlock = run.ending.tried propagate := by
  cases hending : run.ending <;> cases propagate <;> simp only [tryEnding, hending] <;> rfl

/-- A source in front of leaves configures the object that they are done on. -/
theorem runInTurn_configure_cons {source : Source} {given : Settings}
    (h : source.read around.held = .ok given) (s : Settings) (leaves : List Step)
    : runInTurn around named s (.configure source :: leaves)
      = ((runInTurn around named (s.merge given) leaves).1,
          .configuring named.type.owner given.size
          :: (runInTurn around named (s.merge given) leaves).2) := by
  simp only [runInTurn, Run.effect, Step.run, h, configured]
  rfl

/-- A configuring step whose source gives no settings does nothing. -/
theorem runInTurn_unread {source : Source} {fault : SourceFault}
    (h : source.read around.held = .error fault) (s : Settings)
    : runInTurn around named s [.configure source] = (s, []) := by
  simp only [runInTurn, Run.effect, Step.run, h]
  rfl

-----------------------------------------------------------------------------------------
-- Runs follow their courses
-----------------------------------------------------------------------------------------

/-- A run that does what a course says: the effect of its leaves in turn, and its ending.
-/
structure Run.Follows (run : Run BlockEnding) (s : Settings) (course : Course)
    : Prop where
  effect : run.effect = runInTurn around named s course.leaves
  ending : run.ending = course.ending

/-- A run of a step, seen by the block around it. -/
def Run.forBlock (run : Run Ending) : Run BlockEnding :=
  ⟨run.settings, run.trace, run.ending.forBlock⟩

variable {around named}

/-- A step that ends as its block does, up to a change, follows the block's course with
that change.
-/
theorem Run.Follows.withEnding {run : Run BlockEnding} {s : Settings} {course : Course}
    (h : run.Follows around named s course) (change : BlockEnding → BlockEnding)
    {ending : Ending} (hending : ending.forBlock = change run.ending)
    : Run.Follows around named (Run.forBlock ⟨run.settings, run.trace, ending⟩) s
        ⟨course.leaves, change course.ending⟩ :=
  ⟨h.effect, hending.trans (congrArg change h.ending)⟩

/-- Behind a source such a step follows the course from the configured object on. -/
theorem Run.Follows.behind {run : Run BlockEnding} {s given : Settings} {course : Course}
    {source : Source} (hread : source.read around.held = .ok given)
    (h : run.Follows around named (s.merge given) course)
    (change : BlockEnding → BlockEnding) {ending : Ending}
    (hending : ending.forBlock = change run.ending)
    : Run.Follows around named
        (Run.forBlock
          ⟨run.settings, .logged (configured named.type given s).2 :: run.trace, ending⟩)
        s (Course.behind around source ⟨course.leaves, change course.ending⟩) := by
  have hcourse : Course.behind around source ⟨course.leaves, change course.ending⟩
      = ⟨.configure source :: course.leaves, change course.ending⟩ := by
    simp only [Course.behind, hread]
  rw [hcourse]
  refine ⟨?_, hending.trans (congrArg change h.ending)⟩
  rw [runInTurn_configure_cons around named hread, ← h.effect]
  rfl

/-- A block behind a source that gives no settings does not run. -/
theorem follows_unread {source : Source} {fault : SourceFault}
    (hread : source.read around.held = .error fault) (s : Settings) (course : Course)
    : Run.Follows around named ⟨s, [], .finished⟩ s
        (Course.behind around source course) := by
  have hcourse : Course.behind around source course
      = ⟨[.configure source], .finished⟩ := by
    simp only [Course.behind, hread]
  rw [hcourse]
  exact ⟨(runInTurn_unread around named hread s).symm, rfl⟩

/-- A step that finishes and a block that goes on from there follow their courses one
after the other; the entry between them is no event.
-/
theorem Run.Follows.append {first others : Run BlockEnding} {s : Settings}
    {course rest : Course} (hfirst : first.Follows around named s course)
    (hothers : others.Follows around named first.settings rest)
    (depth : Nat) (label : Value) (answer : Answer) (state : Option String)
    : Run.Follows around named
        ⟨others.settings,
          first.trace ++ .finished depth label answer state :: others.trace,
          others.ending⟩
        s ⟨course.leaves ++ rest.leaves, rest.ending⟩ := by
  refine ⟨?_, hothers.ending⟩
  have hsettings : (runInTurn around named s course.leaves).1 = first.settings :=
    congrArg Prod.fst hfirst.effect.symm
  have hevents : (runInTurn around named s course.leaves).2 = logged first.trace :=
    congrArg Prod.snd hfirst.effect.symm
  rw [runInTurn_append, hsettings, hevents, ← hothers.effect]
  simp only [Run.effect, logged_append, logged_cons_finished]

variable (around named)

theorem follows_of_isLeaf {step : Step} (h : step.isLeaf = true) (depth : Nat)
    (s : Settings)
    : (step.run around named depth s).forBlock.Follows around named s
        (step.course around) := by
  rw [Step.course_of_isLeaf around h, run_of_isLeaf around named h]
  exact ⟨(runInTurn_singleton around named s step).symm,
    forBlock_run_of_isLeaf around named h 0 s⟩

mutual

/-- Every step follows its course, by induction on the tree of blocks: a leaf is its own
course, and a block changes no more than how its step ends.
-/
theorem run_follows_course (depth : Nat) (s : Settings) (step : Step)
    : (step.run around named depth s).forBlock.Follows around named s
        (step.course around) := by
  cases step with
  | configureWith block =>
      exact (runBlock_follows_course (depth + 1) s block).withEnding
        BlockEnding.withoutFailure (forBlock_plainEnding named.type _)
  | tryConfigureWith propagate block =>
      exact (runBlock_follows_course (depth + 1) s block).withEnding
        (BlockEnding.tried propagate) (forBlock_tryEnding named.type propagate _)
  | configureFrom source block =>
      cases hread : source.read around.held with
      | error fault =>
          simp only [Step.run, hread]
          exact follows_unread hread s _
      | ok given =>
          have ih := runBlock_follows_course (depth + 1) (s.merge given) block
          simp only [Step.run, hread]
          exact ih.behind hread BlockEnding.withoutFailure
            (forBlock_plainEnding named.type _)
  | tryConfigureFrom propagate source block =>
      cases hread : source.read around.held with
      | error fault =>
          simp only [Step.run, hread]
          exact follows_unread hread s _
      | ok given =>
          have ih := runBlock_follows_course (depth + 1) (s.merge given) block
          simp only [Step.run, hread]
          exact ih.behind hread (BlockEnding.tried propagate)
            (forBlock_tryEnding named.type propagate _)
  | _ => exact follows_of_isLeaf around named rfl depth s
termination_by sizeOf step

theorem runBlock_follows_course (depth : Nat) (s : Settings) (block : List (Value × Step))
    : (runBlock around named depth s block).Follows around named s
        (blockCourse around block) := by
  cases block with
  | nil => exact ⟨rfl, rfl⟩
  | cons first block =>
      obtain ⟨label, step⟩ := first
      have hfirst := run_follows_course depth s step
      cases hending : (step.run around named depth s).ending with
      | done answer =>
          have hfinished : (step.course around).ending = .finished := by
            rw [← hfirst.ending, Run.forBlock, hending]
            rfl
          have hothers := runBlock_follows_course depth
            (step.run around named depth s).settings block
          rw [blockCourse_cons_of_finished around hfinished]
          simp only [runBlock, hending]
          exact hfirst.append hothers depth label answer _
      | failed answer error =>
          have hfailed : (step.course around).ending = .failed error := by
            rw [← hfirst.ending, Run.forBlock, hending]
            rfl
          rw [blockCourse_cons_of_not_finished around (by rw [hfailed]; nofun)]
          simp only [runBlock, hending]
          refine ⟨?_, hfailed.symm⟩
          rw [← hfirst.effect]
          simp only [Run.effect, Run.forBlock, logged_append, logged_cons_finished]
          exact congrArg (Prod.mk _) (List.append_nil _)
      | panicked text =>
          have hpanicked : (step.course around).ending = .panicked text := by
            rw [← hfirst.ending, Run.forBlock, hending]
            rfl
          rw [blockCourse_cons_of_not_finished around (by rw [hpanicked]; nofun)]
          simp only [runBlock, hending]
          exact ⟨hfirst.effect, hpanicked.symm⟩
termination_by sizeOf block

end

-----------------------------------------------------------------------------------------
-- Blocks that stop
-----------------------------------------------------------------------------------------

/-- Nothing behind a block that has failed or panicked runs, by induction on the block. -/
theorem runBlock_append_of_stopped {depth : Nat} (s : Settings) (block back : Block)
    (h : (runBlock around named depth s block).ending ≠ .finished)
    : runBlock around named depth s (block ++ back)
      = runBlock around named depth s block := by
  induction block generalizing s with
  | nil => exact absurd rfl h
  | cons first block ih =>
      obtain ⟨label, step⟩ := first
      cases hending : (step.run around named depth s).ending with
      | done answer =>
          simp only [runBlock, hending] at h
          simp only [List.cons_append, runBlock, hending, ih _ h]
      | failed answer error => simp only [List.cons_append, runBlock, hending]
      | panicked text => simp only [List.cons_append, runBlock, hending]

/-- A leaf that fails or panics does nothing else. -/
theorem runInTurn_append_stop {leaf : Step} (h : leaf.leafEnding ≠ .finished)
    (s : Settings) (front : List Step)
    : runInTurn around named s (front ++ [leaf]) = runInTurn around named s front := by
  have hnothing : ∀ t, runInTurn around named t [leaf] = (t, []) := by
    intro t
    cases leaf with
    | fail error => rfl
    | panic text => rfl
    | _ => exact absurd rfl h
  rw [runInTurn_append, hnothing, List.append_nil]

/-- A block that stops at a leaf keeps exactly what the leaves before that one did, and
does not run what stands behind it.
-/
structure StopsAt (depth : Nat) (s : Settings) (block : Block) (leaf : Step) : Prop where
  kept
    : ∃ front,
        (blockCourse around block).leaves = front ++ [leaf]
        ∧ (runBlock around named depth s block).effect = runInTurn around named s front
  stopped
    : ∀ back,
        runBlock around named depth s (block ++ back)
        = runBlock around named depth s block

/-- A block that does not finish stops at a leaf that ends as the block does, the last of
its course.
-/
theorem exists_stopsAt {depth : Nat} {s : Settings} {block : Block}
    (h : (runBlock around named depth s block).ending ≠ .finished)
    : ∃ leaf,
        leaf.leafEnding = (runBlock around named depth s block).ending
        ∧ StopsAt around named depth s block leaf := by
  have hfollows := runBlock_follows_course around named depth s block
  have hcourse : (blockCourse around block).ending ≠ .finished := hfollows.ending ▸ h
  obtain ⟨front, leaf, hleaves, hleaf⟩ := blockCourse_endsWithLeaf around block hcourse
  refine ⟨leaf, by rw [hleaf, hfollows.ending], ⟨front, hleaves, ?_⟩, ?_⟩
  · rw [← runInTurn_append_stop around named (hleaf ▸ hcourse), ← hleaves]
    exact hfollows.effect
  · exact fun back => runBlock_append_of_stopped around named s block back h

/-- A step that runs a block: at once or behind a source that gives settings, plainly or
trying it.
-/
inductive Step.Runs (block : Block) : Step → Prop
  | plain : Runs block (.configureWith block)
  | plainBehind {source given} (read : source.read around.held = .ok given)
    : Runs block (.configureFrom source block)
  | trying (propagate) : Runs block (.tryConfigureWith propagate block)
  | tryingBehind (propagate) {source given} (read : source.read around.held = .ok given)
    : Runs block (.tryConfigureFrom propagate source block)

/-- A step that tries a block, and passes its failure on or answers with it alone. -/
inductive Step.Tries (propagate : Bool) (block : Block) : Step → Prop
  | atOnce : Tries propagate block (.tryConfigureWith propagate block)
  | behind {source given} (read : source.read around.held = .ok given)
    : Tries propagate block (.tryConfigureFrom propagate source block)

/-- A step panics as the block that it runs, whatever kind of step it is. -/
theorem ending_run_of_panicked {block : Block} {text : String} {step : Step}
    (h : (blockCourse around block).ending = .panicked text)
    (hstep : step.Runs around block) (depth : Nat) (s : Settings)
    : (step.run around named depth s).ending = .panicked text := by
  have hblock : ∀ t, (runBlock around named (depth + 1) t block).ending
      = .panicked text :=
    fun t => (runBlock_follows_course around named (depth + 1) t block).ending.trans h
  cases hstep with
  | plain => simp only [Step.run, plainEnding, hblock]
  | plainBehind read => simp only [Step.run, read, plainEnding, hblock]
  | trying propagate => simp only [Step.run, tryEnding, hblock]
  | tryingBehind propagate read => simp only [Step.run, read, tryEnding, hblock]

/-- A step that tries a block answers with the block's error, and fails with it as well if
it passes it on.
-/
theorem ending_run_of_failed {block : Block} {error : String} {propagate : Bool}
    {step : Step} (h : (blockCourse around block).ending = .failed error)
    (hstep : step.Tries around propagate block) (depth : Nat) (s : Settings)
    : (step.run around named depth s).ending
      = if propagate then .failed (.attempt (.error error)) error
        else .done (.attempt (.error error)) := by
  have hblock : ∀ t, (runBlock around named (depth + 1) t block).ending = .failed error :=
    fun t => (runBlock_follows_course around named (depth + 1) t block).ending.trans h
  cases hstep with
  | atOnce => simp only [Step.run, tryEnding, hblock]
  | behind read => simp only [Step.run, read, tryEnding, hblock]

/-- Blocks are transparent, and failure keeps exactly what was done before it. A tree of
blocks leaves the settings and the events of its executed leaves in turn, which are leaves
of the tree in their order; where no leaf fails or panics they are all its leaves. A block
that fails stops at the leaf with its error, and a step that tries it answers with that
error; a block that panics stops likewise, and so does every step that runs it.
-/
theorem block_transparency (depth : Nat) (s : Settings)
    : (∀ step : Step,
        (step.run around named depth s).effect
          = runInTurn around named s (step.course around).leaves
        ∧ (step.run around named depth s).ending.forBlock = (step.course around).ending
        ∧ (step.course around).leaves.Sublist step.leaves
        ∧ ∀ leaf ∈ step.leaves, leaf.isLeaf = true)
      ∧ (∀ step : Step,
          (∀ leaf ∈ step.leaves, leaf.GoesOn around)
          → (step.run around named depth s).effect
              = runInTurn around named s step.leaves
            ∧ (step.run around named depth s).ending.forBlock = .finished)
      ∧ (∀ (block : Block) (error : String),
          (runBlock around named depth s block).ending = .failed error
          → StopsAt around named depth s block (.fail error)
            ∧ ∀ (propagate : Bool) (step : Step) (outer : Nat) (t : Settings),
                step.Tries around propagate block
                → (step.run around named outer t).ending
                  = if propagate then .failed (.attempt (.error error)) error
                    else .done (.attempt (.error error)))
      ∧ (∀ (block : Block) (text : String),
          (runBlock around named depth s block).ending = .panicked text
          → StopsAt around named depth s block (.panic text)
            ∧ ∀ (step : Step) (outer : Nat) (t : Settings),
                step.Runs around block
                → (step.run around named outer t).ending = .panicked text) := by
  refine ⟨?_, ?_, ?_, ?_⟩
  · intro step
    have hfollows := run_follows_course around named depth s step
    exact ⟨hfollows.effect, hfollows.ending, step.course_sublist around,
      step.isLeaf_leaves⟩
  · intro step hleaves
    have hfollows := run_follows_course around named depth s step
    rw [step.course_of_goesOn around hleaves] at hfollows
    exact ⟨hfollows.effect, hfollows.ending⟩
  · intro block error hfailed
    obtain ⟨leaf, hleaf, hstops⟩ := exists_stopsAt around named
      (show (runBlock around named depth s block).ending ≠ .finished by rw [hfailed]; nofun)
    obtain rfl := Step.eq_fail_of_leafEnding (hleaf.trans hfailed)
    refine ⟨hstops, fun propagate step outer t hstep => ?_⟩
    rw [(runBlock_follows_course around named depth s block).ending] at hfailed
    exact ending_run_of_failed around named hfailed hstep outer t
  · intro block text hpanicked
    obtain ⟨leaf, hleaf, hstops⟩ := exists_stopsAt around named
      (show (runBlock around named depth s block).ending ≠ .finished by
        rw [hpanicked]; nofun)
    obtain rfl := Step.eq_panic_of_leafEnding (hleaf.trans hpanicked)
    refine ⟨hstops, fun step outer t hstep => ?_⟩
    rw [(runBlock_follows_course around named depth s block).ending] at hpanicked
    exact ending_run_of_panicked around named hpanicked hstep outer t

/-- A type of objects without further fields. -/
def plainPerson : NamedType :=
  ⟨NamedType.mom, .null⟩

/-- A step all of whose leaves go on. -/
def nestedSteps : Step :=
  .configureFrom (.pairs [("fat", .null)])
    [(.null, .tryConfigureWith false [(.null, .set ":so_fat" (.str "very"))])]

/-- A block with a failure two blocks deep, which is passed on. -/
def failingBlock : Block :=
  [(.null, .set "fat" (.bool true)),
    (.null, .tryConfigureFrom true (.pairs [("college", .null)])
      [(.null, .fail "no boots")]),
    (.null, .set "so_fat" (.str "very"))]

/-- A block with a panic two blocks deep, where a failure would not be passed on. -/
def panickingBlock : Block :=
  [(.null, .tryConfigureWith false
      [(.null, .set "fat" (.bool true)), (.null, .panic "inside block")]),
    (.null, .set "so_fat" (.str "very"))]

/-- The law at these: the nested steps do what their two leaves do, the failure stops its
block and is what a step that tries the block answers, and the panic stops its block and a
step that tries it.
-/
theorem block_transparency_nested
    : ((∀ leaf ∈ nestedSteps.leaves, leaf.GoesOn (surroundings []))
        ∧ (nestedSteps.run (surroundings []) plainPerson 0 .empty).effect
          = runInTurn (surroundings []) plainPerson .empty nestedSteps.leaves)
      ∧ ((runBlock (surroundings []) plainPerson 0 .empty failingBlock).ending
            = .failed "no boots"
        ∧ StopsAt (surroundings []) plainPerson 0 .empty failingBlock (.fail "no boots")
        ∧ ((Step.tryConfigureWith false failingBlock).run
              (surroundings []) plainPerson 0 .empty).ending
          = .done (.attempt (.error "no boots")))
      ∧ (runBlock (surroundings []) plainPerson 0 .empty panickingBlock).ending
            = .panicked "inside block"
        ∧ StopsAt (surroundings []) plainPerson 0 .empty panickingBlock
            (.panic "inside block")
        ∧ ((Step.tryConfigureWith false panickingBlock).run
              (surroundings []) plainPerson 0 .empty).ending
          = .panicked "inside block" := by
  obtain ⟨_, hgoesOn, hfailed, hpanicked⟩ :=
    block_transparency (surroundings []) plainPerson 0 .empty
  have hleaves : ∀ leaf ∈ nestedSteps.leaves, leaf.GoesOn (surroundings []) := by
    intro leaf hleaf
    have hlisted : leaf = .configure (.pairs [("fat", .null)])
        ∨ leaf = .set ":so_fat" (.str "very") := by
      simpa [nestedSteps, Step.leaves, blockLeaves] using hleaf
    rcases hlisted with rfl | rfl
    · exact ⟨_, rfl⟩
    · trivial
  have hfailure := hfailed failingBlock "no boots" rfl
  have hpanic := hpanicked panickingBlock "inside block" rfl
  exact ⟨⟨hleaves, (hgoesOn nestedSteps hleaves).1⟩,
    ⟨rfl, hfailure.1, hfailure.2 false _ 0 .empty .atOnce⟩,
    rfl, hpanic.1, hpanic.2 _ 0 .empty (.trying false)⟩

end DeclaredSettings.Script
