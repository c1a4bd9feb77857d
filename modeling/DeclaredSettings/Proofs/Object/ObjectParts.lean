import DeclaredSettings.Object.Object
import DeclaredSettings.Proofs.Object.MethodLookup

/-! The parts of an object show the same settings, whichever of them changes these. A name may
be set through the object or through any of its parts: where both types declare the name, it
comes to the same.
-/

namespace DeclaredSettings

-----------------------------------------------------------------------------------------
-- Types and settings
-----------------------------------------------------------------------------------------

namespace Object

@[simp]
theorem type_ofSettings (t : ObjectType) (s : Settings) : (ofSettings t s).type = t := by
  induction t with
  | root layer => rfl
  | sub layer base ih => rw [ofSettings, type, ih]

@[simp]
theorem settings_ofSettings (t : ObjectType) (s : Settings)
    : (ofSettings t s).settings = s := by
  induction t with
  | root layer => rfl
  | sub layer base ih => exact ih

@[simp]
theorem type_withSettings (object : Object) (after : Settings)
    : (object.withSettings after).type = object.type := by
  induction object with
  | root layer own => rfl
  | sub layer inner ih => rw [withSettings, type, type, ih]

@[simp]
theorem settings_withSettings (object : Object) (after : Settings)
    : (object.withSettings after).settings = after := by
  induction object with
  | root layer own => rfl
  | sub layer inner ih => exact ih

@[simp]
theorem withSettings_settings (object : Object)
    : object.withSettings object.settings = object := by
  induction object with
  | root layer own => rfl
  | sub layer inner ih => exact congrArg (sub layer) ih

theorem eq_root_of_type {object : Object} {layer : Layer} (h : object.type = .root layer)
    : ∃ own, object = root layer own := by
  cases object with
  | root other own =>
      obtain rfl := ObjectType.root.inj h
      exact ⟨own, rfl⟩
  | sub other inner => cases h

theorem eq_sub_of_type {object : Object} {layer : Layer} {base : ObjectType}
    (h : object.type = .sub layer base)
    : ∃ inner, object = sub layer inner ∧ inner.type = base := by
  cases object with
  | root other own => cases h
  | sub other inner =>
      obtain ⟨rfl, hinner⟩ := ObjectType.sub.inj h
      exact ⟨inner, rfl, hinner⟩

theorem exists_parts_eq_cons (object : Object)
    : ∃ inside, object.parts = object :: inside := by
  cases object with
  | root layer own => exact ⟨[], rfl⟩
  | sub layer inner => exact ⟨inner.parts, rfl⟩

theorem map_type_parts (object : Object) : object.parts.map type = object.type.chain := by
  induction object with
  | root layer own => rfl
  | sub layer inner ih => simp only [parts, List.map_cons, ih, type, ObjectType.chain]

theorem settings_of_mem_parts {object part : Object} (h : part ∈ object.parts)
    : part.settings = object.settings := by
  induction object with
  | root layer own =>
      obtain rfl := List.mem_singleton.mp h
      rfl
  | sub layer inner ih =>
      rcases List.mem_cons.mp h with rfl | h
      · rfl
      · exact ih h

/-- A call on a part that leaves the part with some settings leaves the whole object with
these settings, by induction on the depth.
-/
theorem onPart_eq_some {call : Object → Option Result} {current : Option Value}
    {events : List Event} {after : Settings} {depth : Nat} {object part : Object}
    (hpart : object.parts[depth]? = some part)
    (hcall : call part = some ⟨current, events, part.withSettings after⟩)
    : object.onPart call depth = some ⟨current, events, object.withSettings after⟩ := by
  induction depth generalizing object with
  | zero =>
      obtain ⟨inside, hparts⟩ := object.exists_parts_eq_cons
      rw [hparts, List.getElem?_cons_zero] at hpart
      obtain rfl := Option.some.inj hpart
      exact hcall
  | succ depth ih =>
      cases object with
      | root layer own => simp [parts] at hpart
      | sub layer inner =>
          rw [parts, List.getElem?_cons_succ] at hpart
          rw [onPart, ih hpart]
          rfl

end Object

-----------------------------------------------------------------------------------------
-- Names through a part
-----------------------------------------------------------------------------------------

/-- Setting a listed name logs nothing, so it does not matter which type it is set through.
-/
theorem ObjectType.setThrough_of_contains {t : ObjectType} {key : String}
    (h : t.schema.contains key = true) (value : Value) (s : Settings)
    : t.setThrough key value s = ((s.assign key value).1, (s.assign key value).2, []) := by
  rw [setThrough, if_pos h]

namespace Object

variable {object part : Object} {depth : Nat} {key : String}

theorem set_of_contains (h : object.type.schema.contains key = true) (value : Value)
    : object.set key value
      = ⟨(object.settings.assign key value).1, [],
          object.withSettings (object.settings.assign key value).2⟩ := by
  rw [set, ObjectType.setThrough_of_contains h]

/-- Setting a name through a part whose own layer declares it is setting it through the
whole object, and logs nothing.
-/
theorem onPart_of_set (hpart : object.parts[depth]? = some part)
    (hkey : key ∈ part.type.layer.keys) {value : Value} {call : Object → Option Result}
    (hcall : call part = some (part.set key value))
    : object.onPart call depth = some (object.set key value)
      ∧ (object.set key value).events = [] := by
  have hmem : part ∈ object.parts := List.mem_of_getElem? hpart
  -- the type of the part lists the name by its own layer, that of the object by its chain
  have hchain : part.type ∈ object.type.chain := by
    rw [← map_type_parts]
    exact List.mem_map_of_mem hmem
  have hobject := set_of_contains (ObjectType.contains_of_mem_keys hchain hkey) value
  have hown := ObjectType.contains_of_mem_keys part.type.mem_chain_self hkey
  have hset := set_of_contains hown value
  rw [settings_of_mem_parts hmem] at hset
  rw [hobject]
  exact ⟨onPart_eq_some hpart (hcall.trans (congrArg some hset)), rfl⟩

/-- Getting a name through a part is getting it through the whole object, which stays as it
is.
-/
theorem onPart_of_get (hpart : object.parts[depth]? = some part)
    {call : Object → Option Result} (hcall : call part = some ⟨part.get key, [], part⟩)
    : object.onPart call depth = some ⟨object.get key, [], object⟩ := by
  have hsettings := settings_of_mem_parts (List.mem_of_getElem? hpart)
  have hcall : call part
      = some ⟨object.get key, [], part.withSettings object.settings⟩ := by
    rw [hcall, get, get, ← hsettings, withSettings_settings]
  have hwhole := onPart_eq_some hpart hcall
  rwa [withSettings_settings] at hwhole

theorem settings_of_mem_parts_set {seen : Object} {value : Value}
    (h : seen ∈ (object.set key value).object.parts)
    : seen.settings = (object.settings.assign key value).2 := by
  rw [settings_of_mem_parts h]
  exact settings_withSettings object _

end Object

end DeclaredSettings
