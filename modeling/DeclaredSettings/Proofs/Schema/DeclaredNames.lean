import DeclaredSettings.Object.ObjectType
import DeclaredSettings.Schema.Registry

/-! Which names a schema lists: declaring adds the given names and nothing else, and a
spelling is found if the name that it stands for is listed.
-/

namespace DeclaredSettings

/-- A name agrees with the spellings that stand for it. -/
theorem Name.agrees_iff (name : Name) (spelling : String)
    : name.agrees spelling = true ↔ Name.of spelling = name := by
  simp only [agrees, of, beq_iff_eq, Name.ext_iff]
  exact eq_comm

namespace Schema

-----------------------------------------------------------------------------------------
-- Names and spellings
-----------------------------------------------------------------------------------------

/-- A spelling is found if and only if the name that it stands for is listed. -/
theorem contains_iff (schema : Schema) (spelling : String)
    : schema.contains spelling = true ↔ Name.of spelling ∈ schema.names := by
  simp only [contains, List.any_eq_true, Name.agrees_iff]
  constructor
  · rintro ⟨name, hname, rfl⟩
    exact hname
  · exact fun h => ⟨_, h, rfl⟩

theorem mem_names_declareName (schema : Schema) (added name : Name)
    : name ∈ (schema.declareName added).names ↔ name ∈ schema.names ∨ name = added := by
  unfold declareName
  split
  · next hlisted =>
    constructor
    · exact .inl
    · rintro (h | rfl)
      · exact h
      · exact hlisted
  · simp

/-- Declaring names lists them beside the names that were there, by induction on them. -/
theorem mem_names_declare (schema : Schema) (names : List Name) (name : Name)
    : name ∈ (schema.declare names).names ↔ name ∈ schema.names ∨ name ∈ names := by
  induction names generalizing schema with
  | nil => simp [declare]
  | cons first rest ih =>
      have hrest := ih (schema.declareName first)
      simp only [declare, List.foldl_cons] at hrest ⊢
      simp only [hrest, mem_names_declareName, List.mem_cons, or_assoc]

/-- Declaring names leaves the owner as it is, by induction on them. -/
@[simp]
theorem owner_declare (schema : Schema) (names : List Name)
    : (schema.declare names).owner = schema.owner := by
  induction names generalizing schema with
  | nil => rfl
  | cons name rest ih =>
      have hfirst : (schema.declareName name).owner = schema.owner := by
        unfold declareName
        split <;> rfl
      exact (ih _).trans hfirst

/-- The schemas in use after some steps, one after the other. -/
def registryAfter (registry : Registry) (steps : List (String × Step)) : Registry :=
  steps.foldl (fun registry step => (step.2.run registry step.1).2) registry

end Schema

end DeclaredSettings
