import Mathlib.Logic.Function.Basic
import DeclaredSettings.Proofs.Name.SymbolSpelling
import DeclaredSettings.Proofs.Schema.FirstOccurrences

/-! Schemas after any run of steps. Beside the registers a run keeps the list of all that was
declared to each of them, where an extension starts from the list of its parent at that
time. A schema lists the first occurrences of what stands in its list and nothing else, so
it knows of its ancestors, and of nothing that was declared elsewhere.
-/

namespace DeclaredSettings

namespace Schema

-----------------------------------------------------------------------------------------
-- What was declared
-----------------------------------------------------------------------------------------

/-- The names that were declared to the schema in each register, in order, behind those that
were declared to the schema that it was extended from before that.
-/
abbrev Declarations := String → Option (List Name)

/-- What is declared after a step on a register. A new schema starts from nothing, an
extension from what its parent has by then.
-/
def Step.record (declared : Declarations) (on : String) : Step → Declarations
  | .new _ names => Function.update declared on (some names)
  | .default => Function.update declared on (some [])
  | .declare names =>
    Function.update declared on ((declared on).map fun earlier => earlier ++ names)
  | .extend parent _ names =>
    match declared parent with
    | some inherited => Function.update declared on (some (inherited ++ names))
    | none => declared
  | .contains _ => declared
  | .eq _ => declared
  | .unknown => declared

/-- What is declared after some steps, one after the other. -/
def declarationsAfter (steps : List (String × Step)) : Declarations :=
  steps.foldl (fun declared step => step.2.record declared step.1) fun _ => none

/-- A schema that lists some names, each at its first occurrence. -/
def Lists (schema : Schema) (declared : List Name) : Prop :=
  schema.names = declared.eraseDups

theorem lists_nil (owner : String) : Lists ⟨owner, []⟩ [] :=
  rfl

/-- Declaring lists the further names behind the others. -/
theorem Lists.declare {schema : Schema} {earlier : List Name} (h : schema.Lists earlier)
    (names : List Name)
    : (schema.declare names).Lists (earlier ++ names) :=
  names_declare h names

/-- An extension lists them behind those of the schema that it extends. -/
theorem Lists.extend {schema : Schema} {earlier : List Name} (h : schema.Lists earlier)
    (owner : String) (names : List Name)
    : (schema.extend owner names).Lists (earlier ++ names) := by
  have hcopied : Lists ⟨owner, schema.names⟩ earlier := h
  exact hcopied.declare names

-----------------------------------------------------------------------------------------
-- What one step does
-----------------------------------------------------------------------------------------

/-- The registers that are in use are those to which something was declared, and their
schemas list just that.
-/
structure Registry.Follows (registry : Registry) (declared : Declarations) : Prop where
  ascending : Entries.Ascending registry
  lists
    : ∀ register, Option.Rel Lists (Entries.lookup register registry) (declared register)

namespace Registry.Follows

variable {registry : Registry} {declared : Declarations}

/-- Filling a register and noting what its schema lists keeps this. -/
theorem insert (h : registry.Follows declared) {schema : Schema} {names : List Name}
    (hschema : schema.Lists names) (on : String)
    : Registry.Follows (Entries.insert on schema registry)
        (Function.update declared on (some names)) where
  ascending := Entries.ascending_insert h.ascending on schema
  lists register := by
    rw [Entries.lookup_insert h.ascending, Function.update_apply]
    split
    · exact .some hschema
    · exact h.lists register

theorem exists_of_lookup (h : registry.Follows declared) {register : String}
    {schema : Schema} (hfound : Entries.lookup register registry = some schema)
    : ∃ names, declared register = some names ∧ schema.Lists names := by
  have hlists := h.lists register
  rw [hfound] at hlists
  generalize declared register = noted at hlists ⊢
  cases hlists with
  | some hlists => exact ⟨_, rfl, hlists⟩

theorem eq_none_of_lookup (h : registry.Follows declared) {register : String}
    (hfound : Entries.lookup register registry = none)
    : declared register = none := by
  have hlists := h.lists register
  rw [hfound] at hlists
  generalize declared register = noted at hlists ⊢
  cases hlists with
  | none => rfl

/-- A step keeps it, by cases on the step. -/
theorem run (h : registry.Follows declared) (on : String) (step : Step)
    : (step.run registry on).2.Follows (step.record declared on) := by
  cases step with
  | new owner names => exact h.insert ((lists_nil owner).declare names) on
  | default => exact h.insert (lists_nil "") on
  | declare names =>
      simp only [Step.run, Step.record]
      split
      · next hfound =>
        -- where there is no schema nothing is declared, and nothing is noted either
        rw [h.eq_none_of_lookup hfound, Option.map_none,
          ← h.eq_none_of_lookup hfound, Function.update_eq_self]
        exact h
      · next hfound =>
        obtain ⟨earlier, hnoted, hlists⟩ := h.exists_of_lookup hfound
        rw [hnoted, Option.map_some]
        exact h.insert (hlists.declare names) on
  | extend parent owner names =>
      simp only [Step.run, Step.record]
      split
      · next hfound =>
        rw [h.eq_none_of_lookup hfound]
        exact h
      · next hfound =>
        obtain ⟨inherited, hnoted, hlists⟩ := h.exists_of_lookup hfound
        rw [hnoted]
        exact h.insert (hlists.extend owner names) on
  | contains spelling | eq other | unknown =>
      simp only [Step.run, Step.record]
      split <;> exact h

end Registry.Follows

/-- Steps one after the other keep the registers and what is declared together, by
induction from the first step on.
-/
theorem follows_declarationsAfter (steps : List (String × Step))
    : (registryAfter [] steps).Follows (declarationsAfter steps) := by
  induction steps using List.reverseRecOn with
  | nil => exact ⟨Entries.ascending_nil, fun _ => .none⟩
  | append_singleton steps last ih =>
      simp only [registryAfter, declarationsAfter, List.foldl_append, List.foldl_cons,
        List.foldl_nil]
      exact ih.run last.1 last.2

-----------------------------------------------------------------------------------------
-- Other registers, and the same one later on
-----------------------------------------------------------------------------------------

/-- Whether a step puts a new schema in its register, whatever was there. -/
def Step.makes : Step → Bool
  | .new .. => true
  | .default => true
  | .extend .. => true
  | _ => false

section Later

variable {registry : Registry}

theorem ascending_run (h : Entries.Ascending registry) (on : String) (step : Step)
    : Entries.Ascending (step.run registry on).2 := by
  have hinsert : ∀ schema, Entries.Ascending (Entries.insert on schema registry) :=
    Entries.ascending_insert h on
  cases step with
  | new owner names => exact hinsert _
  | default => exact hinsert _
  | extend parent owner names | declare names =>
      simp only [Step.run]
      split
      · exact h
      · exact hinsert _
  | contains spelling | eq other | unknown =>
      simp only [Step.run]
      split <;> exact h

/-- A step changes no register but its own. -/
theorem lookup_run_of_ne (h : Entries.Ascending registry) {on register : String}
    (hother : on ≠ register) (step : Step)
    : Entries.lookup register (step.run registry on).2
      = Entries.lookup register registry := by
  have hinsert : ∀ schema, Entries.lookup register (Entries.insert on schema registry)
      = Entries.lookup register registry := by
    intro schema
    rw [Entries.lookup_insert h, if_neg hother.symm]
  cases step with
  | new owner names => exact hinsert _
  | default => exact hinsert _
  | extend parent owner names | declare names =>
      simp only [Step.run]
      split
      · rfl
      · exact hinsert _
  | contains spelling | eq other | unknown =>
      simp only [Step.run]
      split <;> rfl

/-- A schema grows at its end only, as long as no other one is put in its register. -/
theorem names_prefix_run (h : Entries.Ascending registry) {on register : String}
    {step : Step} (hkept : on = register → step.makes = false) {schema : Schema}
    (hfound : Entries.lookup register registry = some schema)
    : ∃ grown,
        Entries.lookup register (step.run registry on).2 = some grown
        ∧ schema.names <+: grown.names := by
  by_cases hon : on = register
  · subst hon
    have hsame : ∃ grown, Entries.lookup on registry = some grown
        ∧ schema.names <+: grown.names :=
      ⟨schema, hfound, List.prefix_refl _⟩
    cases step with
    | declare names =>
        refine ⟨schema.declare names, ?_, schema.names_prefix_declare names⟩
        simp only [Step.run, hfound]
        rw [Entries.lookup_insert h, if_pos rfl]
    | contains spelling | eq other | unknown =>
        simpa only [Step.run, hfound] using hsame
    | new _ _ | default | extend _ _ _ =>
        exact absurd (hkept rfl).symm Bool.false_ne_true
  · rw [lookup_run_of_ne h hon]
    exact ⟨schema, hfound, List.prefix_refl _⟩

/-- Steps on other registers leave a register as it is, by induction on them. -/
theorem lookup_registryAfter_of_ne (h : Entries.Ascending registry) {register : String}
    {steps : List (String × Step)} (hother : ∀ step ∈ steps, step.1 ≠ register)
    : Entries.lookup register (registryAfter registry steps)
      = Entries.lookup register registry := by
  induction steps generalizing registry with
  | nil => rfl
  | cons first rest ih =>
      obtain ⟨hfirst, hrest⟩ := List.forall_mem_cons.mp hother
      exact (ih (ascending_run h first.1 first.2) hrest).trans
        (lookup_run_of_ne h hfirst first.2)

/-- A schema grows at its end only as long as it stays in its register, by induction on the
steps.
-/
theorem names_prefix_registryAfter (h : Entries.Ascending registry) {register : String}
    {steps : List (String × Step)}
    (hkept : ∀ step ∈ steps, step.1 = register → step.2.makes = false) {schema : Schema}
    (hfound : Entries.lookup register registry = some schema)
    : ∃ grown,
        Entries.lookup register (registryAfter registry steps) = some grown
        ∧ schema.names <+: grown.names := by
  induction steps generalizing registry schema with
  | nil => exact ⟨schema, hfound, List.prefix_refl _⟩
  | cons first rest ih =>
      obtain ⟨hfirst, hrest⟩ := List.forall_mem_cons.mp hkept
      obtain ⟨next, hnext, hprefix⟩ := names_prefix_run h hfirst hfound
      obtain ⟨grown, hgrown, hmore⟩ := ih (ascending_run h first.1 first.2) hrest hnext
      exact ⟨grown, hgrown, hprefix.trans hmore⟩

end Later

theorem registryAfter_append (registry : Registry) (front back : List (String × Step))
    : registryAfter registry (front ++ back)
      = registryAfter (registryAfter registry front) back :=
  List.foldl_append

-----------------------------------------------------------------------------------------
-- The law of declarations
-----------------------------------------------------------------------------------------

/-- The schema in a register after some steps that start with no registers, if there is one.
-/
def schemaAfter (steps : List (String × Step)) (register : String) : Option Schema :=
  Entries.lookup register (registryAfter [] steps)

/-- A schema that lists exactly what was declared: the names in order of first occurrence,
none of them twice, and a spelling is found if and only if one of them is its canonical
form.
-/
structure ListsExactly (schema : Schema) (declared : List Name) : Prop where
  names : schema.names = declared.eraseDups
  nodup : schema.names.Nodup
  found
    : ∀ spelling,
        schema.contains spelling = true
        ↔ ∃ name ∈ declared, name.text = canonical spelling

/-- First occurrences do not repeat, and they are all that is listed. -/
theorem Lists.exactly {schema : Schema} {declared : List Name} (h : schema.Lists declared)
    : schema.ListsExactly declared where
  names := h
  nodup := h ▸ nodup_eraseDups _
  found spelling := by
    have hname : ∀ name : Name, name.text = canonical spelling ↔ name = .of spelling :=
      fun name => (@Name.ext_iff name (.of spelling)).symm
    rw [contains_iff, show schema.names = declared.eraseDups from h, List.mem_eraseDups]
    simp only [hname, exists_eq_right]

/-- Registers with a schema that was extended, at once or over schemas between, from one
that listed some names at that time. Each of these schemas stayed in its register from there
on.
-/
inductive Descends (names : List Name) : List (String × Step) → String → Prop
  | child {before after : List (String × Step)} {on parent owner : String}
    {added : List Name} {ancestor : Schema}
    (found : schemaAfter before parent = some ancestor) (listed : ancestor.names = names)
    (stays : ∀ step ∈ after, step.1 = on → step.2.makes = false)
    : Descends names (before ++ (on, .extend parent owner added) :: after) on
  | further {before after : List (String × Step)} {on parent owner : String}
    {added : List Name} (descends : Descends names before parent)
    (stays : ∀ step ∈ after, step.1 = on → step.2.makes = false)
    : Descends names (before ++ (on, .extend parent owner added) :: after) on

/-- An extension lists what its parent lists at that time in front, and goes on doing so. -/
theorem names_prefix_of_extend {before after : List (String × Step)}
    {on parent : String} {ancestor : Schema} (hparent : schemaAfter before parent = some ancestor)
    (hafter : ∀ step ∈ after, step.1 = on → step.2.makes = false)
    (owner : String) (added : List Name)
    : ∃ schema,
        schemaAfter (before ++ (on, .extend parent owner added) :: after) on = some schema
        ∧ ancestor.names <+: schema.names := by
  have hascending := (follows_declarationsAfter before).ascending
  have hextended : Entries.lookup on
      ((Step.extend parent owner added).run (registryAfter [] before) on).2
      = some (ancestor.extend owner added) := by
    rw [schemaAfter] at hparent
    simp only [Step.run, hparent]
    rw [Entries.lookup_insert hascending, if_pos rfl]
  obtain ⟨schema, hschema, hgrown⟩ :=
    names_prefix_registryAfter (ascending_run hascending on _) hafter hextended
  have hinherited : ancestor.names <+: (ancestor.extend owner added).names :=
    names_prefix_declare ⟨owner, ancestor.names⟩ added
  rw [schemaAfter, registryAfter_append]
  exact ⟨schema, hschema, hinherited.trans hgrown⟩

/-- So do extensions of extensions, by induction on the line of descent. -/
theorem Descends.names_prefix {names : List Name} {steps : List (String × Step)}
    {register : String} (h : Descends names steps register)
    : ∃ schema, schemaAfter steps register = some schema ∧ names <+: schema.names := by
  induction h with
  | child found listed stays => exact listed ▸ names_prefix_of_extend found stays _ _
  | further _ stays ih =>
      obtain ⟨parent, hparent, hnames⟩ := ih
      obtain ⟨schema, hschema, hparentNames⟩ := names_prefix_of_extend hparent stays _ _
      exact ⟨schema, hschema, hnames.trans hparentNames⟩

/-- The law of declarations. After any steps the registers in use are those to which
something was declared, and each schema lists exactly that, whichever way the names were
given. Declaring in two goes is declaring at once, and what is found already is not
declared again. What an ancestor lists when it is extended stays in front of what the
extension lists, and steps on other registers, be they parents, children or siblings, do
not show in a schema.
-/
theorem declaration_law
    : (∀ (steps : List (String × Step)) (register : String),
        Option.Rel ListsExactly (schemaAfter steps register)
          (declarationsAfter steps register))
      ∧ (∀ spelling : String, Name.ofOwned spelling = Name.of spelling)
      ∧ (∀ (schema : Schema) (front back : List Name),
          (schema.declare front).declare back = schema.declare (front ++ back))
      ∧ (∀ (schema : Schema) (names : List Name),
          (∀ name ∈ names, name ∈ schema.names) → schema.declare names = schema)
      ∧ (∀ (schema : Schema) (spelling : String),
          schema.contains spelling = true ↔ Name.of spelling ∈ schema.names)
      ∧ (∀ (names : List Name) (steps : List (String × Step)) (register : String),
          Descends names steps register
          → ∃ schema, schemaAfter steps register = some schema ∧ names <+: schema.names)
      ∧ (∀ (before after : List (String × Step)) (register : String),
          (∀ step ∈ after, step.1 ≠ register)
          → schemaAfter (before ++ after) register = schemaAfter before register) := by
  refine ⟨?_, Name.ofOwned_eq_of, ?_, fun _ _ => declare_of_subset, contains_iff,
    fun _ _ _ => Descends.names_prefix, ?_⟩
  · intro steps register
    have hfollows := follows_declarationsAfter steps
    cases hfound : schemaAfter steps register with
    | none =>
        rw [hfollows.eq_none_of_lookup hfound]
        exact .none
    | some schema =>
        obtain ⟨names, hnoted, hlists⟩ := hfollows.exists_of_lookup hfound
        rw [hnoted]
        exact .some hlists.exactly
  · exact fun schema front back => (schema.declare_append front back).symm
  · intro before after register hother
    rw [schemaAfter, registryAfter_append]
    exact lookup_registryAfter_of_ne (follows_declarationsAfter before).ascending hother

/-- Steps that extend a schema, declare more to it, and extend the extension. -/
def branchingSteps : List (String × Step) :=
  [("a", .new "A" ["foo", ":foo"]), ("b", .extend "a" "B" [" bar", "foo"]),
    ("a", .declare ["late"]), ("c", .extend "b" "C" ["::foo", "late"])]

/-- The law at these: the second schema lists what was declared along its line, finds the
spelling `: bar`, and is not changed by declaring what it lists again. The third one keeps
`foo` of the first in front. What is declared to the first and the third does not show in
the second.
-/
theorem declaration_law_branching
    : (∃ schema,
        schemaAfter branchingSteps "b" = some schema
        ∧ schema.ListsExactly ["foo", ":foo", " bar", "foo"])
      ∧ (Schema.mk "B" ["foo", "bar"]).declare [": bar", "foo"] = ⟨"B", ["foo", "bar"]⟩
      ∧ (∃ descendant,
          schemaAfter branchingSteps "c" = some descendant
          ∧ [Name.of "foo"] <+: descendant.names)
      ∧ schemaAfter branchingSteps "b" = schemaAfter (branchingSteps.take 2) "b" := by
  obtain ⟨hlists, _, _, hagain, _, hprefix, hothers⟩ := declaration_law
  refine ⟨?_, ?_, ?_, ?_⟩
  · have hnoted : declarationsAfter branchingSteps "b" = some ["foo", ":foo", " bar", "foo"] :=
      by decide
    have hb := hlists branchingSteps "b"
    rw [hnoted] at hb
    generalize schemaAfter branchingSteps "b" = found at hb ⊢
    cases hb with
    | some hexactly => exact ⟨_, rfl, hexactly⟩
  · exact hagain ⟨"B", ["foo", "bar"]⟩ [": bar", "foo"] (by decide)
  · have hfirst : schemaAfter (branchingSteps.take 1) "a" = some ⟨"A", ["foo"]⟩ := by decide
    have hsecond : Descends ["foo"]
        (branchingSteps.take 1
          ++ ("b", .extend "a" "B" [" bar", "foo"]) :: [("a", .declare ["late"])])
        "b" :=
      .child hfirst rfl (by decide)
    exact hprefix ["foo"] branchingSteps "c" (.further hsecond nofun)
  · exact hothers (branchingSteps.take 2) (branchingSteps.drop 2) "b" (by decide)

end Schema

end DeclaredSettings
