import DeclaredSettings.Object.ObjectType
import DeclaredSettings.Proofs.Schema.DeclaredNames

/-! What a method name means on a type of objects: the accessor found is one that a layer
of the chain brings, under that very name. The nearest layer with such an accessor has it,
be it the setter of the name or the reader of another one.
-/

namespace DeclaredSettings

-----------------------------------------------------------------------------------------
-- The accessors of one layer
-----------------------------------------------------------------------------------------

namespace Accessor

/-- The accessors of some names are their setters, and the readers that no setter is called
like.
-/
theorem mem_ofKeys {keys : List String} {accessor : Accessor}
    : accessor ∈ ofKeys keys
      ↔ ∃ key ∈ keys,
          accessor = ⟨key, .setter, key⟩
          ∨ readerName key ∉ keys ∧ accessor = ⟨readerName key, .reader, key⟩ := by
  simp only [ofKeys, List.mem_flatMap, ofKey, List.mem_cons]
  refine exists_congr fun key => and_congr_right fun _ => or_congr_right ?_
  split
  · next hlisted => simp [hlisted]
  · next hfresh => simp [hfresh]

theorem readerName_inj {key other : String} (h : readerName key = readerName other)
    : key = other :=
  String.append_right_inj "get_" |>.mp h

/-- A listed name is found as its setter: a reader called like it is kept out. -/
theorem find?_ofKeys_of_mem {keys : List String} {key : String} (h : key ∈ keys)
    : (ofKeys keys).find? (·.method = key) = some ⟨key, .setter, key⟩ := by
  cases hfind : (ofKeys keys).find? (·.method = key) with
  | none =>
      have hsetter : ⟨key, .setter, key⟩ ∈ ofKeys keys := mem_ofKeys.mpr ⟨key, h, .inl rfl⟩
      simpa using List.find?_eq_none.mp hfind _ hsetter
  | some found =>
      have hmethod : found.method = key := by simpa using List.find?_some hfind
      obtain ⟨other, _, rfl | ⟨hfresh, rfl⟩⟩ :=
        mem_ofKeys.mp (List.mem_of_find?_eq_some hfind)
      · rw [show other = key from hmethod]
      · have hreader : readerName other = key := hmethod
        exact absurd (hreader ▸ h) hfresh

/-- The name of the reader of a listed name is found as that reader, unless it is listed
itself.
-/
theorem find?_ofKeys_readerName {keys : List String} {key : String} (h : key ∈ keys)
    (hfresh : readerName key ∉ keys)
    : (ofKeys keys).find? (·.method = readerName key)
      = some ⟨readerName key, .reader, key⟩ := by
  cases hfind : (ofKeys keys).find? (·.method = readerName key) with
  | none =>
      have hreader : ⟨readerName key, .reader, key⟩ ∈ ofKeys keys :=
        mem_ofKeys.mpr ⟨key, h, .inr ⟨hfresh, rfl⟩⟩
      simpa using List.find?_eq_none.mp hfind _ hreader
  | some found =>
      have hmethod : found.method = readerName key := by simpa using List.find?_some hfind
      obtain ⟨other, hother, rfl | ⟨_, rfl⟩⟩ :=
        mem_ofKeys.mp (List.mem_of_find?_eq_some hfind)
      · exact absurd (hmethod ▸ hother) hfresh
      · rw [readerName_inj hmethod]

/-- A name that is not listed and that no reader has is not found. -/
theorem find?_ofKeys_eq_none {keys : List String} {method : String} (h : method ∉ keys)
    (hreaders : ∀ key ∈ keys, readerName key ≠ method)
    : (ofKeys keys).find? (·.method = method) = none := by
  rw [List.find?_eq_none]
  intro accessor haccessor hmethod
  have hmethod : accessor.method = method := by simpa using hmethod
  obtain ⟨key, hkey, rfl | ⟨_, rfl⟩⟩ := mem_ofKeys.mp haccessor
  · exact h (hmethod ▸ hkey)
  · exact hreaders key hkey hmethod

end Accessor

/-- A setter that a layer brings is called by the name that it sets, by cases on the two
accessors of a declared name.
-/
theorem Layer.key_of_setter {layer : Layer} {accessor : Accessor}
    (h : accessor ∈ layer.accessors) (hkind : accessor.kind = .setter)
    : accessor.key = accessor.method := by
  obtain ⟨declared, _, hmem⟩ := List.mem_flatMap.mp h
  rcases List.mem_cons.mp hmem with rfl | hreader
  · rfl
  · split at hreader
    · exact absurd hreader List.not_mem_nil
    · obtain rfl := List.mem_singleton.mp hreader
      exact nomatch hkind

-----------------------------------------------------------------------------------------
-- The chain of types
-----------------------------------------------------------------------------------------

namespace ObjectType

/-- The type itself, its base, the base of that one, and so on. -/
def chain : ObjectType → List ObjectType
  | root layer => [root layer]
  | sub layer base => sub layer base :: base.chain

theorem exists_chain_eq_cons (t : ObjectType) : ∃ farther, t.chain = t :: farther := by
  cases t with
  | root layer => exact ⟨[], rfl⟩
  | sub layer base => exact ⟨base.chain, rfl⟩

/-- The schema of a type lists what the names of its chain stand for, by induction on the
chain.
-/
theorem mem_names_schema {t : ObjectType} {name : Name}
    : name ∈ t.schema.names
      ↔ ∃ bringing ∈ t.chain, ∃ key ∈ bringing.layer.keys, name = Name.of key := by
  induction t with
  | root layer =>
      simp [schema, Schema.new, Schema.mem_names_declare, chain, ObjectType.layer, eq_comm]
  | sub layer base ih =>
      simp only [schema, Schema.extend, Schema.mem_names_declare, ih, chain, List.mem_cons,
        List.mem_map, exists_eq_or_imp, ObjectType.layer, eq_comm]
      exact or_comm

/-- The schema of a type belongs to the type itself, also where it extends another one. -/
theorem owner_schema (t : ObjectType) : t.schema.owner = t.owner := by
  cases t with
  | root layer => exact Schema.owner_declare _ _
  | sub layer base => exact Schema.owner_declare _ _

theorem mem_chain_self (t : ObjectType) : t ∈ t.chain := by
  obtain ⟨farther, hchain⟩ := t.exists_chain_eq_cons
  rw [hchain]
  exact List.mem_cons_self

/-- A type lists what its own layer declares and what the layers of its bases declare. -/
theorem contains_of_mem_keys {t bringing : ObjectType} (hbringing : bringing ∈ t.chain)
    {key : String} (hkey : key ∈ bringing.layer.keys)
    : t.schema.contains key = true := by
  rw [Schema.contains_iff, mem_names_schema]
  exact ⟨bringing, hbringing, key, hkey, rfl⟩

/-- A method name means the accessor of the first type of the chain that has one, by
induction on the types in front of it.
-/
theorem accessor?_of_split {t bringing : ObjectType} {nearer farther : List ObjectType}
    {method : String} {accessor : Accessor}
    (hchain : t.chain = nearer ++ bringing :: farther)
    (hnearer
      : ∀ other ∈ nearer, other.layer.accessors.find? (·.method = method) = none)
    (hfound : bringing.layer.accessors.find? (·.method = method) = some accessor)
    : t.accessor? method = some (bringing, accessor) := by
  induction nearer generalizing t with
  | nil =>
      cases t with
      | root layer =>
          obtain ⟨rfl, _⟩ := List.cons.inj hchain
          exact Option.map_eq_some_iff.mpr ⟨accessor, hfound, rfl⟩
      | sub layer base =>
          obtain ⟨rfl, _⟩ := List.cons.inj hchain
          simp only [ObjectType.layer] at hfound
          simp only [accessor?, hfound]
  | cons first nearer ih =>
      cases t with
      | root layer => exact absurd (List.cons.inj hchain).2.symm (by simp)
      | sub layer base =>
          obtain ⟨rfl, hbase⟩ := List.cons.inj hchain
          have hpassed := hnearer _ List.mem_cons_self
          simp only [ObjectType.layer] at hpassed
          simp only [accessor?, hpassed]
          exact ih hbase fun other hother => hnearer other (List.mem_cons_of_mem _ hother)

/-- So the accessors of its own layer are the nearest ones of a type. -/
theorem accessor?_of_find? {t : ObjectType} {method : String} {accessor : Accessor}
    (h : t.layer.accessors.find? (·.method = method) = some accessor)
    : t.accessor? method = some (t, accessor) := by
  obtain ⟨bases, hbases⟩ := t.exists_chain_eq_cons
  have hfirst : t.chain = [] ++ t :: bases := hbases
  exact accessor?_of_split hfirst (fun _ hother => absurd hother List.not_mem_nil) h

/-- An accessor that a method name means has this name, and the outermost layer of the
type that brings it has it; by induction on the chain of types.
-/
theorem accessor?_eq_some {t declaring : ObjectType} {method : String}
    {accessor : Accessor} (h : t.accessor? method = some (declaring, accessor))
    : accessor ∈ declaring.layer.accessors ∧ accessor.method = method := by
  have hfound : ∀ {layer : Layer},
      layer.accessors.find? (·.method = method) = some accessor
      → accessor ∈ layer.accessors ∧ accessor.method = method := by
    intro layer hfind
    exact ⟨List.mem_of_find?_eq_some hfind, by simpa using List.find?_some hfind⟩
  induction t with
  | root layer =>
      obtain ⟨_, hfind, heq⟩ := Option.map_eq_some_iff.mp h
      cases heq
      exact hfound hfind
  | sub layer base ih =>
      simp only [accessor?] at h
      split at h
      · next hfind =>
        cases h
        exact hfound hfind
      · exact ih h

/-- A setter that a method name means sets the key of that name. -/
theorem key_of_setter {t declaring : ObjectType} {method name key : String}
    (h : t.accessor? method = some (declaring, ⟨name, .setter, key⟩))
    : key = method := by
  obtain ⟨hmem, hmethod⟩ := accessor?_eq_some h
  exact (Layer.key_of_setter hmem rfl).trans hmethod

end ObjectType

end DeclaredSettings
