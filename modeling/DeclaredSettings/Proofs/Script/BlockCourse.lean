import DeclaredSettings.Proofs.Script.DirectRun

/-! The course of a step with blocks in it: which leaves it executes and how it ends. The
course does not depend on the object, since failures, panics and sources do not.
-/

namespace DeclaredSettings.Script

/-- Whether a step has no block of its own. -/
def Step.isLeaf : Step → Bool
  | .configureWith _ => false
  | .configureFrom .. => false
  | .tryConfigureWith .. => false
  | .tryConfigureFrom .. => false
  | _ => true

/-- How a leaf ends for the block around it. -/
def Step.leafEnding : Step → BlockEnding
  | .fail error => .failed error
  | .panic text => .panicked text
  | _ => .finished

/-- How a step ends for the block around it. -/
def Ending.forBlock : Ending → BlockEnding
  | .done _ => .finished
  | .failed _ error => .failed error
  | .panicked text => .panicked text

/-- The same ending with a failure passed over; a panic is not passed over. -/
def BlockEnding.withoutFailure : BlockEnding → BlockEnding
  | .failed _ => .finished
  | ending => ending

/-- How a step that tries a block ends for the block around it. -/
def BlockEnding.tried (propagate : Bool) (ending : BlockEnding) : BlockEnding :=
  if propagate then ending else ending.withoutFailure

/-- The leaves that are executed, in order, and how that ends. -/
structure Course where
  leaves : List Step
  ending : BlockEnding

/-- The course of a block behind its source, which configures the object first. A source
that gives no settings keeps the block from running.
-/
def Course.behind (around : Surroundings) (source : Source) (course : Course) : Course :=
  match source.read around.held with
  | .ok _ => ⟨.configure source :: course.leaves, course.ending⟩
  | .error _ => ⟨[.configure source], .finished⟩

mutual

/-- The course of a step: of its block if it has one, and else the step itself. -/
def Step.course (around : Surroundings) : Step → Course
  | .configureWith block =>
    let course := blockCourse around block
    ⟨course.leaves, course.ending.withoutFailure⟩
  | .configureFrom source block =>
    let course := blockCourse around block
    Course.behind around source ⟨course.leaves, course.ending.withoutFailure⟩
  | .tryConfigureWith propagate block =>
    let course := blockCourse around block
    ⟨course.leaves, course.ending.tried propagate⟩
  | .tryConfigureFrom propagate source block =>
    let course := blockCourse around block
    Course.behind around source ⟨course.leaves, course.ending.tried propagate⟩
  | step => ⟨[step], step.leafEnding⟩

/-- The course of a block: the courses of its steps up to the first that does not finish.
-/
def blockCourse (around : Surroundings) : List (Value × Step) → Course
  | [] => ⟨[], .finished⟩
  | (_, step) :: block =>
    let first := step.course around
    match first.ending with
    | .finished =>
      let others := blockCourse around block
      ⟨first.leaves ++ others.leaves, others.ending⟩
    | ending => ⟨first.leaves, ending⟩

end

mutual

/-- All leaves of a step, executed or not, the sources of blocks among them. -/
def Step.leaves : Step → List Step
  | .configureWith block => blockLeaves block
  | .configureFrom source block => .configure source :: blockLeaves block
  | .tryConfigureWith _ block => blockLeaves block
  | .tryConfigureFrom _ source block => .configure source :: blockLeaves block
  | step => [step]

/-- All leaves of a block. -/
def blockLeaves : List (Value × Step) → List Step
  | [] => []
  | (_, step) :: block => step.leaves ++ blockLeaves block

end

/-- A leaf that neither fails nor panics, and whose source gives settings if it configures.
-/
def Step.GoesOn (around : Surroundings) : Step → Prop
  | .fail _ => False
  | .panic _ => False
  | .configure source => ∃ given, source.read around.held = .ok given
  | _ => True

-----------------------------------------------------------------------------------------
-- Courses of leaves and of blocks step by step
-----------------------------------------------------------------------------------------

variable (around : Surroundings)

theorem Step.course_of_isLeaf {step : Step} (h : step.isLeaf = true)
    : step.course around = ⟨[step], step.leafEnding⟩ := by
  cases step with
  | configureWith _ | configureFrom _ _ | tryConfigureWith _ _ | tryConfigureFrom _ _ _ =>
      exact absurd h Bool.false_ne_true
  | _ => rfl

theorem blockCourse_cons_of_finished {label : Value} {step : Step} {block : Block}
    (h : (step.course around).ending = .finished)
    : blockCourse around ((label, step) :: block)
      = ⟨(step.course around).leaves ++ (blockCourse around block).leaves,
          (blockCourse around block).ending⟩ := by
  simp only [blockCourse, h]

theorem blockCourse_cons_of_not_finished {label : Value} {step : Step} {block : Block}
    (h : (step.course around).ending ≠ .finished)
    : blockCourse around ((label, step) :: block) = step.course around := by
  cases hcourse : step.course around with
  | mk leaves ending =>
      rw [hcourse] at h
      cases ending with
      | finished => exact absurd rfl h
      | failed error => simp only [blockCourse, hcourse]
      | panicked text => simp only [blockCourse, hcourse]

-----------------------------------------------------------------------------------------
-- Which leaves a course has
-----------------------------------------------------------------------------------------

mutual

/-- No leaf of a step has a block of its own, by induction on the tree of blocks. -/
theorem Step.isLeaf_leaves (step : Step)
    : ∀ leaf ∈ step.leaves, leaf.isLeaf = true := by
  cases step with
  | configureWith block => exact isLeaf_blockLeaves block
  | configureFrom source block =>
      exact List.forall_mem_cons.mpr ⟨rfl, isLeaf_blockLeaves block⟩
  | tryConfigureWith propagate block => exact isLeaf_blockLeaves block
  | tryConfigureFrom propagate source block =>
      exact List.forall_mem_cons.mpr ⟨rfl, isLeaf_blockLeaves block⟩
  | _ =>
      intro leaf hleaf
      obtain rfl := List.mem_singleton.mp hleaf
      rfl
termination_by sizeOf step

theorem isLeaf_blockLeaves (block : List (Value × Step))
    : ∀ leaf ∈ blockLeaves block, leaf.isLeaf = true := by
  cases block with
  | nil => nofun
  | cons first block =>
      obtain ⟨label, step⟩ := first
      exact List.forall_mem_append.mpr ⟨step.isLeaf_leaves, isLeaf_blockLeaves block⟩
termination_by sizeOf block

end

/-- Behind a source the executed leaves are the source and leaves of the block. -/
theorem Course.behind_sublist {source : Source} {course : Course} {leaves : List Step}
    (h : course.leaves.Sublist leaves)
    : (Course.behind around source course).leaves.Sublist
        (.configure source :: leaves) := by
  unfold Course.behind
  split
  · exact h.cons_cons _
  · exact (List.nil_sublist leaves).cons_cons _

mutual

/-- A course has leaves of its step only, in their order and none twice, by induction on
the tree of blocks.
-/
theorem Step.course_sublist (step : Step)
    : (step.course around).leaves.Sublist step.leaves := by
  cases step with
  | configureWith block => exact blockCourse_sublist block
  | configureFrom source block =>
      exact Course.behind_sublist around (blockCourse_sublist block)
  | tryConfigureWith propagate block => exact blockCourse_sublist block
  | tryConfigureFrom propagate source block =>
      exact Course.behind_sublist around (blockCourse_sublist block)
  | _ => exact List.Sublist.refl _
termination_by sizeOf step

theorem blockCourse_sublist (block : List (Value × Step))
    : (blockCourse around block).leaves.Sublist (blockLeaves block) := by
  cases block with
  | nil => exact List.Sublist.refl _
  | cons first block =>
      obtain ⟨label, step⟩ := first
      have hstep := step.course_sublist
      by_cases hending : (step.course around).ending = .finished
      · rw [blockCourse_cons_of_finished around hending]
        exact hstep.append (blockCourse_sublist block)
      · rw [blockCourse_cons_of_not_finished around hending]
        exact hstep.trans (List.sublist_append_left _ _)
termination_by sizeOf block

end

/-- Behind a source that gives settings a block runs. -/
theorem Course.behind_of_goesOn {source : Source}
    (h : (Step.configure source).GoesOn around) (course : Course)
    : Course.behind around source course
      = ⟨.configure source :: course.leaves, course.ending⟩ := by
  obtain ⟨given, hread⟩ := h
  simp only [Course.behind, hread]

mutual

/-- Where every leaf goes on, all of them are executed and the step finishes, by induction
on the tree of blocks.
-/
theorem Step.course_of_goesOn (step : Step) (h : ∀ leaf ∈ step.leaves, leaf.GoesOn around)
    : step.course around = ⟨step.leaves, .finished⟩ := by
  cases step with
  | configureWith block =>
      have hblock := blockCourse_of_goesOn block h
      simp only [Step.course, hblock]
      rfl
  | configureFrom source block =>
      obtain ⟨hsource, hleaves⟩ := List.forall_mem_cons.mp h
      have hblock := blockCourse_of_goesOn block hleaves
      simp only [Step.course, hblock, Course.behind_of_goesOn around hsource]
      rfl
  | tryConfigureWith propagate block =>
      have hblock := blockCourse_of_goesOn block h
      simp only [Step.course, hblock]
      cases propagate <;> rfl
  | tryConfigureFrom propagate source block =>
      obtain ⟨hsource, hleaves⟩ := List.forall_mem_cons.mp h
      have hblock := blockCourse_of_goesOn block hleaves
      simp only [Step.course, hblock, Course.behind_of_goesOn around hsource]
      cases propagate <;> rfl
  | fail error => exact absurd (h _ List.mem_cons_self) id
  | panic text => exact absurd (h _ List.mem_cons_self) id
  | _ => rfl
termination_by sizeOf step

theorem blockCourse_of_goesOn (block : List (Value × Step))
    : (∀ leaf ∈ blockLeaves block, leaf.GoesOn around)
      → blockCourse around block = ⟨blockLeaves block, .finished⟩ := by
  cases block with
  | nil => exact fun _ => rfl
  | cons first block =>
      obtain ⟨label, step⟩ := first
      intro h
      obtain ⟨hfirst, hblock⟩ := List.forall_mem_append.mp h
      have hstep := step.course_of_goesOn hfirst
      have hfinished : (step.course around).ending = .finished := by rw [hstep]
      rw [blockCourse_cons_of_finished around hfinished, hstep,
        blockCourse_of_goesOn block hblock]
      rfl
termination_by sizeOf block

end

-----------------------------------------------------------------------------------------
-- How a course ends
-----------------------------------------------------------------------------------------

/-- A course that ends with its last leaf: if it does not finish, it is that leaf that does
not.
-/
def Course.EndsWithLeaf (course : Course) : Prop :=
  course.ending ≠ .finished →
    ∃ front leaf, course.leaves = front ++ [leaf] ∧ leaf.leafEnding = course.ending

/-- Passing a failure over leaves no other ending than the course had or a finish. -/
theorem Course.EndsWithLeaf.withoutFailure {course : Course} (h : course.EndsWithLeaf)
    : Course.EndsWithLeaf ⟨course.leaves, course.ending.withoutFailure⟩ := by
  obtain ⟨leaves, ending⟩ := course
  cases ending with
  | failed error => exact fun hending => absurd rfl hending
  | _ => exact h

theorem Course.EndsWithLeaf.tried {course : Course} (h : course.EndsWithLeaf)
    (propagate : Bool)
    : Course.EndsWithLeaf ⟨course.leaves, course.ending.tried propagate⟩ := by
  cases propagate with
  | false => exact h.withoutFailure
  | true => exact h

/-- A source in front does not change the last leaf of a block that does not finish. -/
theorem Course.EndsWithLeaf.behind {course : Course} (h : course.EndsWithLeaf)
    (source : Source)
    : (Course.behind around source course).EndsWithLeaf := by
  unfold Course.behind
  split
  · intro hending
    obtain ⟨front, leaf, hleaves, hleaf⟩ := h hending
    exact ⟨.configure source :: front, leaf, by rw [hleaves]; rfl, hleaf⟩
  · exact fun hending => absurd rfl hending

mutual

/-- Every course ends with its last leaf, by induction on the tree of blocks. -/
theorem Step.course_endsWithLeaf (step : Step)
    : (step.course around).EndsWithLeaf := by
  cases step with
  | configureWith block => exact (blockCourse_endsWithLeaf block).withoutFailure
  | configureFrom source block =>
      exact (blockCourse_endsWithLeaf block).withoutFailure.behind around source
  | tryConfigureWith propagate block =>
      exact (blockCourse_endsWithLeaf block).tried propagate
  | tryConfigureFrom propagate source block =>
      exact ((blockCourse_endsWithLeaf block).tried propagate).behind around source
  | _ => exact fun _ => ⟨[], _, rfl, rfl⟩
termination_by sizeOf step

theorem blockCourse_endsWithLeaf (block : List (Value × Step))
    : (blockCourse around block).EndsWithLeaf := by
  cases block with
  | nil => exact fun hending => absurd rfl hending
  | cons first block =>
      obtain ⟨label, step⟩ := first
      by_cases hstep : (step.course around).ending = .finished
      · rw [blockCourse_cons_of_finished around hstep]
        intro hending
        obtain ⟨front, leaf, hleaves, hleaf⟩ := blockCourse_endsWithLeaf block hending
        refine ⟨(step.course around).leaves ++ front, leaf, ?_, hleaf⟩
        rw [hleaves, List.append_assoc]
      · rw [blockCourse_cons_of_not_finished around hstep]
        exact step.course_endsWithLeaf
termination_by sizeOf block

end

/-- A leaf that fails is a failure with this error. -/
theorem Step.eq_fail_of_leafEnding {step : Step} {error : String}
    (h : step.leafEnding = .failed error)
    : step = .fail error := by
  cases step with
  | fail other =>
      obtain rfl : other = error := by simpa [Step.leafEnding] using h
      rfl
  | _ => exact absurd h nofun

/-- A leaf that panics is a panic with this text. -/
theorem Step.eq_panic_of_leafEnding {step : Step} {text : String}
    (h : step.leafEnding = .panicked text)
    : step = .panic text := by
  cases step with
  | panic other =>
      obtain rfl : other = text := by simpa [Step.leafEnding] using h
      rfl
  | _ => exact absurd h nofun

end DeclaredSettings.Script
