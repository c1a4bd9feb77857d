import Mathlib.Logic.Function.Iterate
import DeclaredSettings.Proofs.Entries.LookupLaws
import DeclaredSettings.Proofs.Object.MethodLookup
import DeclaredSettings.Proofs.Script.BlockTransparency
import DeclaredSettings.Proofs.Settings.KeyInvariants

/-! Keys come from the script. A property of all keys is kept by every step and command
when the canonical forms of the spellings given there have it; so every key that is ever
held is what one of these spellings becomes.
-/

namespace DeclaredSettings.Script

-----------------------------------------------------------------------------------------
-- The spellings that a script gives for keys to be stored under
-----------------------------------------------------------------------------------------

/-- The keys that a source spells out. The keys of a register were given before. -/
def Source.spellings : Source → List String
  | .json text => Settings.jsonNames text
  | .toml text => Settings.tomlNames text
  | .value v => v.memberNames
  | .pairs entries => entries.map (·.1)
  | .mapping m => m.entries.map (·.1)
  | .entrywise m => m.entries.map (·.1)
  | _ => []

/-- The keys that a step on settings gives for values to be stored under. -/
def Edit.spellings : Edit → List String
  | .assign key _ => [key]
  | .insert key _ => [key]
  | .merge source => source.spellings
  | .reverseMerge source => source.spellings
  | _ => []

/-- The keys that a leaf gives; a setter gives its own name. -/
def Step.leafSpellings : Step → List String
  | .set key _ => [key]
  | .call method _ => [method]
  | .settings edit => edit.spellings
  | .configure source => source.spellings
  | .reverseMerge source => source.spellings
  | _ => []

/-- The keys that a step gives in all its leaves. -/
def Step.spellings (step : Step) : List String :=
  step.leaves.flatMap Step.leafSpellings

/-- The keys that a command gives, with both readings of its step. -/
def Command.spellings (command : Command) : List String :=
  match command.action with
  | .new _ none => []
  | .new _ (some source) => source.spellings
  | .copy _ => []
  | .step edit step => edit.spellings ++ step.spellings

/-- A key that one of these spellings becomes: it is the spelling made canonical once, and
once more at each reload.
-/
def ComesFrom (spellings : List String) (key : String) : Prop :=
  ∃ spelling ∈ spellings, ∃ reloads, canonical^[reloads + 1] spelling = key

/-- The canonical form of a given spelling comes from it. -/
theorem ComesFrom.given {spellings : List String} {spelling : String}
    (h : spelling ∈ spellings)
    : ComesFrom spellings (canonical spelling) :=
  ⟨spelling, h, 0, rfl⟩

/-- The canonical form of a key comes from where the key comes from, by one more reload. -/
theorem ComesFrom.canonical {spellings : List String} {key : String}
    (h : ComesFrom spellings key)
    : ComesFrom spellings (canonical key) := by
  obtain ⟨spelling, hspelling, reloads, rfl⟩ := h
  exact ⟨spelling, hspelling, reloads + 1, Function.iterate_succ_apply' _ _ _⟩

-----------------------------------------------------------------------------------------
-- What one step keeps
-----------------------------------------------------------------------------------------

variable {p : String → Prop}

/-- A result with its errors put in other words is there only if the result is. -/
theorem eq_ok_of_mapError {ε ε' α : Type} {result : Except ε α} {words : ε → ε'} {a : α}
    (h : result.mapError words = .ok a)
    : result = .ok a := by
  cases result with
  | error => exact nomatch h
  | ok a' => exact congrArg Except.ok (Except.ok.inj h)

/-- The keys of a source are canonical forms of what it spells out, or were held in the
register that it is.
-/
theorem Source.keysSatisfy_of_read {held : String → Option Settings}
    (hheld : ∀ name s, held name = some s → s.KeysSatisfy p) {source : Source}
    (hgiven : ∀ spelling ∈ source.spellings, p (canonical spelling)) {given : Settings}
    (hread : source.read held = .ok given)
    : given.KeysSatisfy p := by
  cases source with
  | json text => exact Settings.keysSatisfy_ofJson hgiven (eq_ok_of_mapError hread)
  | toml text => exact Settings.keysSatisfy_ofToml hgiven (eq_ok_of_mapError hread)
  | value v => exact Settings.keysSatisfy_ofValue hgiven (eq_ok_of_mapError hread)
  | pairs entries =>
      obtain rfl := Except.ok.inj hread
      exact Settings.keysSatisfy_ofPairs hgiven
  | mapping m =>
      obtain rfl := Except.ok.inj hread
      exact Settings.keysSatisfy_ofMapping hgiven
  | entrywise m =>
      obtain rfl := Except.ok.inj hread
      exact Settings.keysSatisfy_ofPairs hgiven
  | register name =>
      simp only [read] at hread
      split at hread
      · next s hname =>
        obtain rfl := Except.ok.inj hread
        exact hheld name s hname
      · exact nomatch hread
  | missing => exact nomatch hread
  | unknown => exact nomatch hread

theorem Edit.keysSatisfy_run (hclosed : ∀ name, p name → p (canonical name))
    {held : String → Option Settings}
    (hheld : ∀ name s, held name = some s → s.KeysSatisfy p)
    (others : String → Option Settings) {s : Settings} (h : s.KeysSatisfy p)
    {edit : Edit} (hgiven : ∀ spelling ∈ edit.spellings, p (canonical spelling))
    : (edit.run held others s).2.KeysSatisfy p := by
  cases edit with
  | assign key value => exact h.assign (hgiven key List.mem_cons_self) value
  | insert key value => exact h.put (hgiven key List.mem_cons_self) value
  | remove key => exact h.erase key
  | merge source =>
      simp only [run]
      split
      · next hread => exact h.merge (Source.keysSatisfy_of_read hheld hgiven hread)
      · exact h
  | reverseMerge source =>
      simp only [run]
      split
      · next hread =>
        exact h.reverseMerge (Source.keysSatisfy_of_read hheld hgiven hread)
      · exact h
  | reload => exact h.reload hclosed
  | clear => exact Settings.keysSatisfy_empty
  | same register =>
      simp only [run]
      split <;> exact h
  | _ => exact h

variable (around : Surroundings) (named : NamedType)

theorem Step.keysSatisfy_of_isLeaf (hclosed : ∀ name, p name → p (canonical name))
    (hheld : ∀ name s, around.held name = some s → s.KeysSatisfy p) {s : Settings}
    (h : s.KeysSatisfy p) {leaf : Step} (hleaf : leaf.isLeaf = true)
    (hgiven : ∀ spelling ∈ leaf.leafSpellings, p (canonical spelling))
    : (leaf.run around named 0 s).settings.KeysSatisfy p := by
  cases leaf with
  | set key value => exact h.assign (hgiven key List.mem_cons_self) value
  | call method value =>
      simp only [run]
      split
      · next hfound =>
        obtain rfl := ObjectType.key_of_setter hfound
        exact h.assign (hgiven _ List.mem_cons_self) value
      · exact h
  | settings edit => exact Edit.keysSatisfy_run hclosed hheld around.plain h hgiven
  | configure source =>
      simp only [run]
      split
      · exact h
      · next hread => exact h.merge (Source.keysSatisfy_of_read hheld hgiven hread)
  | reverseMerge source =>
      simp only [run]
      split
      · exact h
      · next hread =>
        exact h.reverseMerge (Source.keysSatisfy_of_read hheld hgiven hread)
  | configureWith _ | configureFrom _ _ | tryConfigureWith _ _ | tryConfigureFrom _ _ _ =>
      exact absurd hleaf Bool.false_ne_true
  | reader key =>
      simp only [run]
      split <;> exact h
  | basePart =>
      simp only [run]
      split <;> exact h
  | extract view =>
      cases view with
      | none => exact h
      | some view =>
          simp only [run]
          split <;> exact h
  | safely result => cases result <;> exact h
  | _ => exact h

-----------------------------------------------------------------------------------------
-- What whole runs keep
-----------------------------------------------------------------------------------------

/-- Leaves in turn keep the property, by induction on them. -/
theorem keysSatisfy_runInTurn (hclosed : ∀ name, p name → p (canonical name))
    (hheld : ∀ name s, around.held name = some s → s.KeysSatisfy p) {s : Settings}
    (h : s.KeysSatisfy p) {leaves : List Step}
    (hleaves : ∀ leaf ∈ leaves, leaf.isLeaf = true)
    (hgiven
      : ∀ leaf ∈ leaves, ∀ spelling ∈ leaf.leafSpellings, p (canonical spelling))
    : (runInTurn around named s leaves).1.KeysSatisfy p := by
  induction leaves generalizing s with
  | nil => exact h
  | cons leaf leaves ih =>
      obtain ⟨hleaf, hleaves⟩ := List.forall_mem_cons.mp hleaves
      obtain ⟨hfirst, hgiven⟩ := List.forall_mem_cons.mp hgiven
      exact ih (Step.keysSatisfy_of_isLeaf around named hclosed hheld h hleaf hfirst)
        hleaves hgiven

/-- A step with blocks in it keeps the property, since it does what leaves of it do. -/
theorem Step.keysSatisfy_run (hclosed : ∀ name, p name → p (canonical name))
    (hheld : ∀ name s, around.held name = some s → s.KeysSatisfy p) {s : Settings}
    (h : s.KeysSatisfy p) {step : Step}
    (hgiven : ∀ spelling ∈ step.spellings, p (canonical spelling)) (depth : Nat)
    : (step.run around named depth s).settings.KeysSatisfy p := by
  have heffect : (step.run around named depth s).settings
      = (runInTurn around named s (step.course around).leaves).1 :=
    congrArg Prod.fst (run_follows_course around named depth s step).effect
  have hsublist := step.course_sublist around
  rw [heffect]
  refine keysSatisfy_runInTurn around named hclosed hheld h ?_ ?_
  · exact fun leaf hleaf => step.isLeaf_leaves leaf (hsublist.subset hleaf)
  · intro leaf hleaf spelling hspelling
    exact hgiven spelling
      (List.mem_flatMap.mpr ⟨leaf, hsublist.subset hleaf, hspelling⟩)

/-- All settings in the registers have the property. -/
def Registers.KeysSatisfy (p : String → Prop) (registers : Registers) : Prop :=
  ∀ register ∈ registers, register.2.contents.KeysSatisfy p

theorem Registers.KeysSatisfy.held {registers : Registers}
    (h : Registers.KeysSatisfy p registers) (name : String) (s : Settings)
    (hheld : (surroundings registers).held name = some s)
    : s.KeysSatisfy p := by
  obtain ⟨held, hlookup, rfl⟩ := Option.map_eq_some_iff.mp hheld
  exact h _ (Entries.mem_of_lookup hlookup)

theorem Registers.KeysSatisfy.insert {registers : Registers}
    (h : Registers.KeysSatisfy p registers) {held : Held}
    (hheld : held.contents.KeysSatisfy p) (name : String)
    : Registers.KeysSatisfy p (Entries.insert name held registers) := by
  intro register hmem
  rcases Entries.mem_insert hmem with rfl | hmem
  · exact hheld
  · exact h register hmem

/-- A new register holds the settings that it is made of. -/
theorem contents_of_made {type : String} {given : Except SourceFault Settings}
    {held : Held} (h : made type given = .ok held)
    : given = .ok held.contents := by
  cases given with
  | error fault => cases h
  | ok s =>
      by_cases hsettings : type = "Settings"
      · simp only [made, if_pos hsettings] at h
        obtain rfl := Except.ok.inj h
        rfl
      · cases hnamed : NamedType.ofName? type with
        | none =>
            simp only [made, if_neg hsettings, hnamed] at h
            cases h
        | some named =>
            simp only [made, if_neg hsettings, hnamed] at h
            obtain rfl := Except.ok.inj h
            rfl

/-- The step of a command keeps the property of what its register holds. -/
theorem Command.keysSatisfy_runStep (hclosed : ∀ name, p name → p (canonical name))
    {others : Registers} (hothers : Registers.KeysSatisfy p others) {held : Held}
    (h : held.contents.KeysSatisfy p) (command : Command) {edit : Edit} {step : Step}
    (hgiven : ∀ spelling ∈ edit.spellings ++ step.spellings, p (canonical spelling))
    : (command.runStep edit step held others).1.contents.KeysSatisfy p := by
  obtain ⟨hedit, hstep⟩ := List.forall_mem_append.mp hgiven
  cases held with
  | settings s => exact Edit.keysSatisfy_run hclosed hothers.held _ h hedit
  | object named s => exact Step.keysSatisfy_run _ named hclosed hothers.held h hstep 0

/-- A command keeps the property of all registers, by cases on what it does with its own.
-/
theorem Command.keysSatisfy_run (hclosed : ∀ name, p name → p (canonical name))
    {registers : Registers} (h : Registers.KeysSatisfy p registers) {command : Command}
    (hgiven : ∀ spelling ∈ command.spellings, p (canonical spelling))
    : Registers.KeysSatisfy p (command.run registers).1 := by
  obtain ⟨label, register, action⟩ := command
  cases action with
  | new type source =>
      simp only [run]
      split
      · next held hmade =>
        have hcontents := contents_of_made hmade
        refine h.insert ?_ register
        cases source with
        | none =>
            rw [← Except.ok.inj hcontents]
            exact Settings.keysSatisfy_empty
        | some source => exact Source.keysSatisfy_of_read h.held hgiven hcontents
      · exact h
  | copy other =>
      simp only [run]
      split
      · next held hlookup =>
        have hcopied : (Held.settings held.contents).contents.KeysSatisfy p :=
          h _ (Entries.mem_of_lookup hlookup)
        exact h.insert hcopied register
      · exact h
  | step edit step =>
      simp only [run]
      split
      · exact h
      · next held hlookup =>
        refine h.insert ?_ register
        refine Command.keysSatisfy_runStep hclosed ?_
          (h _ (Entries.mem_of_lookup hlookup)) _ hgiven
        exact fun other hother => h other (List.mem_filter.mp hother).1

/-- What the registers hold after some commands, one after the other. -/
def registersAfter (registers : Registers) (commands : List Command) : Registers :=
  commands.foldl (fun registers command => (command.run registers).1) registers

/-- Commands one after the other keep the property of all registers, by induction on them.
-/
theorem keysSatisfy_registersAfter (hclosed : ∀ name, p name → p (canonical name))
    {registers : Registers} (h : Registers.KeysSatisfy p registers)
    {commands : List Command}
    (hgiven
      : ∀ command ∈ commands, ∀ spelling ∈ command.spellings, p (canonical spelling))
    : Registers.KeysSatisfy p (registersAfter registers commands) :=
  List.foldlRecOn commands _ h fun _ hsofar command hcommand =>
    Command.keysSatisfy_run hclosed hsofar (hgiven command hcommand)

/-- Every key that is held after a script from no registers on comes from a spelling that
the script gives.
-/
theorem comesFrom_of_mem_keys {commands : List Command} {register : String × Held}
    (hregister : register ∈ registersAfter [] commands) {key : String}
    (hkey : key ∈ register.2.contents.keys)
    : ComesFrom (commands.flatMap Command.spellings) key := by
  obtain ⟨e, he, rfl⟩ := List.mem_map.mp hkey
  have hgiven : ∀ command ∈ commands, ∀ spelling ∈ command.spellings,
      ComesFrom (commands.flatMap Command.spellings) (canonical spelling) :=
    fun command hcommand spelling hspelling =>
      .given (List.mem_flatMap.mpr ⟨command, hcommand, hspelling⟩)
  exact keysSatisfy_registersAfter (fun _ => .canonical) nofun hgiven register hregister
    e he

end DeclaredSettings.Script
