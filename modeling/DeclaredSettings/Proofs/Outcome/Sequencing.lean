import Mathlib.Data.List.Forall2

/-! Steps that may fail, one after the other: what a success of all of them says about each.
-/

namespace DeclaredSettings.Outcome

variable {ε α β : Type u}

/-- Two steps succeed if and only if the first does and the second does with its result. -/
theorem bind_eq_ok {first : Except ε α} {second : α → Except ε β} {b : β}
    : first >>= second = .ok b ↔ ∃ a, first = .ok a ∧ second a = .ok b := by
  cases first with
  | error fault => exact ⟨nofun, fun ⟨_, h, _⟩ => nomatch h⟩
  | ok a =>
      constructor
      · exact fun h => ⟨a, rfl, h⟩
      · rintro ⟨_, heq, h⟩
        cases heq
        exact h

/-- Two steps fail if and only if the first does or the second does with its result. -/
theorem bind_eq_error {first : Except ε α} {second : α → Except ε β} {fault : ε}
    : first >>= second = .error fault
      ↔ first = .error fault ∨ ∃ a, first = .ok a ∧ second a = .error fault := by
  cases first with
  | error other =>
      constructor
      · exact fun h => .inl (congrArg Except.error (Except.error.inj h))
      · rintro (h | ⟨_, h, _⟩)
        · exact congrArg Except.error (Except.error.inj h)
        · exact nomatch h
  | ok a =>
      constructor
      · exact fun h => .inr ⟨a, rfl, h⟩
      · rintro (h | ⟨_, heq, h⟩)
        · exact nomatch h
        · cases heq
          exact h

theorem toOption_eq_some {outcome : Except ε α} {a : α}
    : outcome.toOption = some a ↔ outcome = .ok a := by
  cases outcome with
  | error fault => exact ⟨nofun, nofun⟩
  | ok found => exact ⟨fun h => congrArg Except.ok (Option.some.inj h), fun h => h ▸ rfl⟩

/-- Where a step succeeds on a whole list, its results are those of the items one by one,
by induction on the list.
-/
theorem forall₂_of_mapM_eq_ok {step : α → Except ε β} {as : List α} {bs : List β}
    (h : as.mapM step = .ok bs)
    : List.Forall₂ (fun a b => step a = .ok b) as bs := by
  induction as generalizing bs with
  | nil =>
      obtain rfl := Except.ok.inj h
      exact .nil
  | cons a as ih =>
      rw [List.mapM_cons] at h
      obtain ⟨b, hb, hothers⟩ := bind_eq_ok.mp h
      obtain ⟨others, has, heq⟩ := bind_eq_ok.mp hothers
      obtain rfl := Except.ok.inj heq
      exact .cons hb (ih has)

/-- A step that succeeds on every item of a list succeeds on the list, by induction on it. -/
theorem exists_mapM_eq_ok {step : α → Except ε β} {as : List α}
    (h : ∀ a ∈ as, ∃ b, step a = .ok b)
    : ∃ bs, as.mapM step = .ok bs := by
  induction as with
  | nil => exact ⟨[], rfl⟩
  | cons a as ih =>
      obtain ⟨⟨b, hb⟩, hothers⟩ := List.forall_mem_cons.mp h
      obtain ⟨bs, hbs⟩ := ih hothers
      refine ⟨b :: bs, ?_⟩
      rw [List.mapM_cons, hb, hbs]
      rfl

/-- A step fails on a list if and only if it fails on some item and succeeds on all in front
of that; by induction on the list.
-/
theorem mapM_eq_error {step : α → Except ε β} {as : List α} {fault : ε}
    : as.mapM step = .error fault
      ↔ ∃ front a back,
          as = front ++ a :: back
          ∧ (∀ earlier ∈ front, ∃ b, step earlier = .ok b)
          ∧ step a = .error fault := by
  induction as with
  | nil =>
      constructor
      · exact nofun
      · rintro ⟨front, a, back, h, _⟩
        exact absurd h.symm (List.append_ne_nil_of_right_ne_nil _ (List.cons_ne_nil _ _))
  | cons first others ih =>
      rw [List.mapM_cons]
      constructor
      · intro h
        rcases bind_eq_error.mp h with hfirst | ⟨b, hb, h⟩
        · exact ⟨[], first, others, rfl, nofun, hfirst⟩
        · rcases bind_eq_error.mp h with hothers | ⟨bs, _, h⟩
          · obtain ⟨front, a, back, rfl, hfront, ha⟩ := ih.mp hothers
            exact ⟨first :: front, a, back, rfl,
              List.forall_mem_cons.mpr ⟨⟨b, hb⟩, hfront⟩, ha⟩
          · exact nomatch h
      · rintro ⟨front, a, back, heq, hfront, ha⟩
        cases front with
        | nil =>
            obtain ⟨rfl, rfl⟩ := List.cons.inj heq
            rw [ha]
            rfl
        | cons earlier front =>
            obtain ⟨rfl, rfl⟩ := List.cons.inj heq
            obtain ⟨⟨b, hb⟩, hrest⟩ := List.forall_mem_cons.mp hfront
            rw [hb, ih.mpr ⟨front, a, back, rfl, hrest, ha⟩]
            rfl

/-- Items that correspond to others one by one each correspond to one of them. -/
theorem exists_mem_of_forall₂ {r : α → β → Prop} {as : List α} {bs : List β}
    (h : List.Forall₂ r as bs) {b : β} (hb : b ∈ bs)
    : ∃ a ∈ as, r a b := by
  induction h with
  | nil => exact absurd hb List.not_mem_nil
  | @cons a first as bs hr _ ih =>
      rcases List.mem_cons.mp hb with rfl | hb
      · exact ⟨a, List.mem_cons_self, hr⟩
      · obtain ⟨found, hfound, hr⟩ := ih hb
        exact ⟨found, List.mem_cons_of_mem _ hfound, hr⟩

end DeclaredSettings.Outcome
