import DeclaredSettings.Schema.Registry
import DeclaredSettings.Proofs.Script.GivenKeys
import DeclaredSettings.Proofs.Settings.SpellingInvariance

/-! Two runs of a script in two spellings. Where keys are replaced by other spellings of the
same names, every step leaves the same settings, gives the same answer and logs the same
events, except that the event of an undeclared name shows the spelling that was given.
-/

namespace DeclaredSettings.Script

/-- Which spellings may stand in place of which: any key may stay as it is, and a key is
only replaced by one with the same canonical form.
-/
structure Respelling where
  Replaces : String → String → Prop
  stays : ∀ key, Replaces key key
  sound : ∀ {key other}, Replaces key other → canonical key = canonical other

namespace Respelling

/-- Every key may be replaced by all spellings of its name. -/
def any : Respelling :=
  ⟨fun key other => canonical key = canonical other, fun _ => rfl, id⟩

variable (r : Respelling)

-----------------------------------------------------------------------------------------
-- Scripts in two spellings
-----------------------------------------------------------------------------------------

/-- A pair and the same pair under a respelt key. -/
def Pairs (e f : String × Value) : Prop :=
  r.Replaces e.1 f.1 ∧ e.2 = f.2

/-- A mapping whose keys have different canonical forms, and the mapping of its pairs under
respelt keys, which stand in an order of their own.
-/
structure Mappings (m other : Mapping) : Prop where
  apart : Settings.ApartKeys m.entries
  respelt : ∃ pairs, List.Forall₂ r.Pairs m.entries pairs ∧ other = .ofList pairs

/-- Sources in two spellings. The keys of a text are those of the document that it is. -/
inductive Sources : Source → Source → Prop
  | same (source) : Sources source source
  | pairs {pairs others} (h : List.Forall₂ r.Pairs pairs others)
    : Sources (.pairs pairs) (.pairs others)
  | mapping {m other} (h : r.Mappings m other) : Sources (.mapping m) (.mapping other)
  | entrywise {m other} (h : r.Mappings m other)
    : Sources (.entrywise m) (.entrywise other)
  | value {entries others} (h : r.Mappings (.ofList entries) (.ofList others))
    : Sources (.value (.obj entries)) (.value (.obj others))
  | json {text other entries others} (document : Json.document text = .ok (.obj entries))
    (otherDocument : Json.document other = .ok (.obj others))
    (h : r.Mappings (.ofList entries) (.ofList others))
    : Sources (.json text) (.json other)
  | toml {text other entries others} (document : Toml.document text = some entries)
    (otherDocument : Toml.document other = some others)
    (h : r.Mappings (.ofList entries) (.ofList others))
    : Sources (.toml text) (.toml other)

/-- Steps on settings in two spellings. -/
inductive Edits : Edit → Edit → Prop
  | same (edit) : Edits edit edit
  | get {key other} (h : r.Replaces key other) : Edits (.get key) (.get other)
  | containsKey {key other} (h : r.Replaces key other)
    : Edits (.containsKey key) (.containsKey other)
  | assign {key other} (h : r.Replaces key other) (value)
    : Edits (.assign key value) (.assign other value)
  | insert {key other} (h : r.Replaces key other) (value)
    : Edits (.insert key value) (.insert other value)
  | remove {key other} (h : r.Replaces key other) : Edits (.remove key) (.remove other)
  | merge {source other} (h : r.Sources source other)
    : Edits (.merge source) (.merge other)
  | reverseMerge {source other} (h : r.Sources source other)
    : Edits (.reverseMerge source) (.reverseMerge other)

mutual

/-- Steps on an object in two spellings, those in their blocks among them. The names of
methods are no keys and stay as they are.
-/
inductive Steps : Step → Step → Prop
  | same (step) : Steps step step
  | set {key other} (h : r.Replaces key other) (value)
    : Steps (.set key value) (.set other value)
  | get {key other} (h : r.Replaces key other) : Steps (.get key) (.get other)
  | schema {key other} (h : r.Replaces key other) : Steps (.schema key) (.schema other)
  | settings {edit other} (h : r.Edits edit other)
    : Steps (.settings edit) (.settings other)
  | configure {source other} (h : r.Sources source other)
    : Steps (.configure source) (.configure other)
  | reverseMerge {source other} (h : r.Sources source other)
    : Steps (.reverseMerge source) (.reverseMerge other)
  | configureWith {block other} (h : Blocks block other)
    : Steps (.configureWith block) (.configureWith other)
  | configureFrom {source other block otherBlock} (hsource : r.Sources source other)
    (h : Blocks block otherBlock)
    : Steps (.configureFrom source block) (.configureFrom other otherBlock)
  | tryConfigureWith (propagate) {block other} (h : Blocks block other)
    : Steps (.tryConfigureWith propagate block) (.tryConfigureWith propagate other)
  | tryConfigureFrom (propagate) {source other block otherBlock}
    (hsource : r.Sources source other) (h : Blocks block otherBlock)
    : Steps (.tryConfigureFrom propagate source block)
        (.tryConfigureFrom propagate other otherBlock)

/-- Blocks in two spellings. -/
inductive Blocks : Block → Block → Prop
  | nil : Blocks [] []
  | cons (label) {step other block otherBlock} (hstep : Steps step other)
    (h : Blocks block otherBlock)
    : Blocks ((label, step) :: block) ((label, other) :: otherBlock)

end

/-- What happens in the two runs: the same, but for the spelling of an undeclared name. -/
inductive SameEntry : Entry → Entry → Prop
  | same (entry) : SameEntry entry entry
  | undeclared (owner) {key other} (h : r.Replaces key other)
    : SameEntry (.logged (.undeclared owner key)) (.logged (.undeclared owner other))

/-- Two runs that leave the same settings, end in the same way, and in which the same
happens.
-/
structure SameRun {ε : Type} (run other : Run ε) : Prop where
  settings : run.settings = other.settings
  ending : run.ending = other.ending
  trace : List.Forall₂ r.SameEntry run.trace other.trace

variable {r}

-----------------------------------------------------------------------------------------
-- Sources and steps on settings
-----------------------------------------------------------------------------------------

/-- Pairs under respelt keys have keys of the same canonical forms. -/
theorem Pairs.samePair {e f : String × Value} (h : r.Pairs e f) : Settings.SamePair e f :=
  ⟨r.sound h.1, h.2⟩

/-- Mappings in two spellings are the same settings, put in one by one. -/
theorem Mappings.ofPairs_eq {m other : Mapping} (h : r.Mappings m other)
    : Settings.ofPairs m.entries = Settings.ofPairs other.entries := by
  obtain ⟨pairs, hpairs, rfl⟩ := h.respelt
  exact Settings.ofPairs_respelt h.apart (hpairs.imp fun _ _ => Pairs.samePair)

/-- They are so too where they are taken over as they are. -/
theorem Mappings.ofMapping_eq {m other : Mapping} (h : r.Mappings m other)
    : Settings.ofMapping m = Settings.ofMapping other := by
  rw [Settings.ofMapping_eq_ofPairs, Settings.ofMapping_eq_ofPairs, h.ofPairs_eq]

/-- A source gives the same settings in both spellings, by cases on its kind. -/
theorem Sources.read_eq {source other : Source} (h : r.Sources source other)
    (held : String → Option Settings)
    : source.read held = other.read held := by
  cases h with
  | same source => rfl
  | pairs h =>
      simp only [Source.read]
      rw [Settings.ofPairs_congr (h.imp fun _ _ => Pairs.samePair)]
  | mapping h => simp only [Source.read, h.ofMapping_eq]
  | entrywise h => simp only [Source.read, h.ofPairs_eq]
  | value h =>
      simp only [Source.read, Settings.ofValue, Value.toMapping?, h.ofMapping_eq]
  | json document otherDocument h =>
      simp only [Source.read, Settings.ofJson, document, otherDocument, Settings.ofValue,
        Value.toMapping?, h.ofMapping_eq]
  | toml document otherDocument h =>
      simp only [Source.read, Settings.ofToml, document, otherDocument, h.ofMapping_eq]

theorem Edits.run_eq {edit other : Edit} (h : r.Edits edit other)
    (held others : String → Option Settings) (s : Settings)
    : edit.run held others s = other.run held others s := by
  cases h with
  | same edit => rfl
  | get h => simp only [Edit.run, Settings.get_congr (r.sound h)]
  | containsKey h => simp only [Edit.run, Settings.containsKey_congr (r.sound h)]
  | assign h value => simp only [Edit.run, Settings.assign_congr (r.sound h)]
  | insert h value => simp only [Edit.run, Settings.insert_congr (r.sound h)]
  | remove h => simp only [Edit.run, Settings.remove_congr (r.sound h)]
  | merge h => simp only [Edit.run, h.read_eq]
  | reverseMerge h => simp only [Edit.run, h.read_eq]

-----------------------------------------------------------------------------------------
-- Steps on objects and their blocks
-----------------------------------------------------------------------------------------

theorem sameEntry_self (trace : List Entry) : List.Forall₂ r.SameEntry trace trace :=
  List.forall₂_same.mpr fun entry _ => .same entry

theorem SameRun.self {ε : Type} (run : Run ε) : r.SameRun run run :=
  ⟨rfl, rfl, sameEntry_self run.trace⟩

/-- An event in front of the same runs makes no difference. -/
theorem SameRun.behind {run other : Run BlockEnding} (h : r.SameRun run other)
    (front : List Entry)
    : List.Forall₂ r.SameEntry (front ++ run.trace) (front ++ other.trace) :=
  List.rel_append (sameEntry_self front) h.trace

/-- A step that passes its block's failure over ends in the same way. -/
theorem SameRun.plainEnding_eq {run other : Run BlockEnding} (h : r.SameRun run other)
    (t : ObjectType)
    : plainEnding t run = plainEnding t other := by
  simp only [plainEnding, h.settings, h.ending]

/-- So does one that tries its block. -/
theorem SameRun.tryEnding_eq {run other : Run BlockEnding} (h : r.SameRun run other)
    (t : ObjectType) (propagate : Bool)
    : tryEnding t propagate run = tryEnding t propagate other := by
  simp only [tryEnding, h.settings, h.ending]

variable (around : Surroundings) (named : NamedType)

/-- Setting a name does the same in both spellings. An undeclared name is logged as it was
spelt.
-/
theorem sameRun_set {key other : String} (h : r.Replaces key other) (value : Value)
    (depth : Nat) (s : Settings)
    : r.SameRun ((Step.set key value).run around named depth s)
        ((Step.set other value).run around named depth s) := by
  have hassign := Settings.assign_congr (r.sound h) s value
  have hcontains := Schema.contains_congr (r.sound h) named.type.schema
  refine ⟨?_, ?_, ?_⟩
  · simp only [Step.run, ObjectType.setThrough, hassign]
  · simp only [Step.run, ObjectType.setThrough, hassign]
  · simp only [Step.run, ObjectType.setThrough, hcontains]
    split
    · exact .nil
    · exact .cons (.undeclared named.type.owner h) .nil

mutual

/-- A step runs in the same way in both spellings, by induction on the tree of blocks. -/
theorem Steps.sameRun {step other : Step} (h : r.Steps step other) (depth : Nat)
    (s : Settings)
    : r.SameRun (step.run around named depth s) (other.run around named depth s) := by
  cases h with
  | same step => exact .self _
  | set h value => exact sameRun_set around named h value depth s
  | get h =>
      simp only [Step.run, Settings.get_congr (r.sound h)]
      exact .self _
  | schema h =>
      simp only [Step.run, Schema.contains_congr (r.sound h)]
      exact .self _
  | settings h =>
      simp only [Step.run, h.run_eq]
      exact .self _
  | configure h =>
      simp only [Step.run, h.read_eq]
      exact .self _
  | reverseMerge h =>
      simp only [Step.run, h.read_eq]
      exact .self _
  | configureWith h =>
      have hblock := h.sameRun (depth + 1) s
      simp only [Step.run]
      exact ⟨hblock.settings, hblock.plainEnding_eq _, hblock.trace⟩
  | tryConfigureWith propagate h =>
      have hblock := h.sameRun (depth + 1) s
      simp only [Step.run]
      exact ⟨hblock.settings, hblock.tryEnding_eq _ propagate, hblock.trace⟩
  | configureFrom hsource h =>
      simp only [Step.run, hsource.read_eq]
      split
      · exact .self _
      · next given _ =>
        have hblock := h.sameRun (depth + 1) (configured named.type given s).1
        exact ⟨hblock.settings, hblock.plainEnding_eq _, hblock.behind [_]⟩
  | tryConfigureFrom propagate hsource h =>
      simp only [Step.run, hsource.read_eq]
      split
      · exact .self _
      · next given _ =>
        have hblock := h.sameRun (depth + 1) (configured named.type given s).1
        exact ⟨hblock.settings, hblock.tryEnding_eq _ propagate, hblock.behind [_]⟩
termination_by sizeOf step

theorem Blocks.sameRun {block other : Block} (h : r.Blocks block other) (depth : Nat)
    (s : Settings)
    : r.SameRun (runBlock around named depth s block)
        (runBlock around named depth s other) := by
  cases h with
  | nil => exact .self _
  | @cons label step respelt block otherBlock hstep h =>
      have hfirst := hstep.sameRun depth s
      have hending := hfirst.ending
      simp only [runBlock, hfirst.settings, hending]
      split
      · have hothers := h.sameRun depth (respelt.run around named depth s).settings
        exact ⟨hothers.settings, hothers.ending,
          List.rel_append hfirst.trace (.cons (.same _) hothers.trace)⟩
      · exact ⟨rfl, rfl, List.rel_append hfirst.trace (sameEntry_self _)⟩
      · exact ⟨rfl, rfl, hfirst.trace⟩
termination_by sizeOf block

end

-----------------------------------------------------------------------------------------
-- Commands and scripts
-----------------------------------------------------------------------------------------

variable (r)

/-- Commands in two spellings, on the same register and under the same label. -/
inductive Commands : Command → Command → Prop
  | same (command) : Commands command command
  | new (label register type) {source other} (h : r.Sources source other)
    : Commands ⟨label, register, .new type (some source)⟩
        ⟨label, register, .new type (some other)⟩
  | step (label register) {edit otherEdit step otherStep} (hedit : r.Edits edit otherEdit)
    (hstep : r.Steps step otherStep)
    : Commands ⟨label, register, .step edit step⟩ ⟨label, register, .step otherEdit otherStep⟩

variable {r}

/-- A command leaves the same registers, and the same happens in both spellings. -/
theorem Commands.run_same {command other : Command} (h : r.Commands command other)
    (registers : Registers)
    : (command.run registers).1 = (other.run registers).1
      ∧ List.Forall₂ r.SameEntry (command.run registers).2 (other.run registers).2 := by
  cases h with
  | same command => exact ⟨rfl, sameEntry_self _⟩
  | new label register type h =>
      simp only [Command.run, h.read_eq]
      exact ⟨rfl, sameEntry_self _⟩
  | step label register hedit hstep =>
      simp only [Command.run]
      split
      · exact ⟨rfl, sameEntry_self _⟩
      · next held _ =>
        cases held with
        | settings s =>
            simp only [Command.runStep, hedit.run_eq, true_and]
            exact sameEntry_self _
        | object named s =>
            have hrun := hstep.sameRun (surroundings (Entries.erase register registers))
              named 0 s
            simp only [Command.runStep, hrun.settings, hrun.ending, true_and]
            exact List.rel_append hrun.trace (sameEntry_self _)

/-- Commands one after the other leave the same registers, by induction on them. -/
theorem registersAfter_eq {commands others : List Command}
    (h : List.Forall₂ r.Commands commands others) (registers : Registers)
    : registersAfter registers commands = registersAfter registers others := by
  induction h generalizing registers with
  | nil => rfl
  | @cons command other commands others hfirst _ ih =>
      have hregisters := (hfirst.run_same registers).1
      simp only [registersAfter, List.foldl_cons, hregisters] at ih ⊢
      exact ih _

/-- The same happens in both scripts, by induction on the commands. -/
theorem run_same {commands others : List Command}
    (h : List.Forall₂ r.Commands commands others) (registers : Registers)
    : List.Forall₂ r.SameEntry (run registers commands) (run registers others) := by
  induction h generalizing registers with
  | nil => exact .nil
  | cons hfirst _ ih =>
      obtain ⟨hregisters, htrace⟩ := hfirst.run_same registers
      simp only [run, hregisters]
      exact List.rel_append htrace (ih _)

-----------------------------------------------------------------------------------------
-- Schemas
-----------------------------------------------------------------------------------------

variable (r)

/-- Steps on schemas in two spellings of what is asked for. -/
inductive SchemaSteps : String × Schema.Step → String × Schema.Step → Prop
  | same (step) : SchemaSteps step step
  | contains (on) {key other} (h : r.Replaces key other)
    : SchemaSteps (on, .contains key) (on, .contains other)

variable {r}

/-- A step on a schema answers and leaves the same in both spellings. -/
theorem SchemaSteps.run_eq {step other : String × Schema.Step} (h : r.SchemaSteps step other)
    (registry : Schema.Registry)
    : step.1 = other.1 ∧ step.2.run registry step.1 = other.2.run registry other.1 := by
  cases h with
  | same step => exact ⟨rfl, rfl⟩
  | contains on h =>
      simp only [Schema.Step.run, Schema.contains_congr (r.sound h), and_self]

/-- So do steps on schemas one after the other, by induction on them. -/
theorem runAll_eq {steps others : List (String × Schema.Step)}
    (h : List.Forall₂ r.SchemaSteps steps others) (registry : Schema.Registry)
    : Schema.runAll registry steps = Schema.runAll registry others := by
  induction h generalizing registry with
  | nil => rfl
  | @cons step other steps others hfirst _ ih =>
      obtain ⟨hon, hrun⟩ := hfirst.run_eq registry
      obtain ⟨on, step⟩ := step
      obtain ⟨otherOn, other⟩ := other
      obtain rfl : on = otherOn := hon
      have hrun : step.run registry on = other.run registry on := hrun
      simp only [Schema.runAll, hrun, ih]

end Respelling

/-- Spelling never matters. In two runs from the same registers, of scripts that differ in
the spelling of keys only, the registers hold the same after every command, and the same
happens: the same answers and texts behind every step, those in blocks among them, and the
same events, except that an undeclared name is logged as it was spelt. The same holds for a
step on settings, a step on an object at any depth of blocks, and steps on schemas.
-/
theorem spelling_never_matters (r : Respelling)
    : (∀ (registers : Registers) (commands others : List Command),
          List.Forall₂ r.Commands commands others
          → List.Forall₂ r.SameEntry (run registers commands) (run registers others)
            ∧ ∀ n, registersAfter registers (commands.take n)
                = registersAfter registers (others.take n))
      ∧ (∀ (around : Surroundings) (named : NamedType) (depth : Nat) (s : Settings)
            (step other : Step),
          r.Steps step other
          → r.SameRun (step.run around named depth s) (other.run around named depth s))
      ∧ (∀ (held others : String → Option Settings) (s : Settings) (edit other : Edit),
          r.Edits edit other → edit.run held others s = other.run held others s)
      ∧ ∀ (registry : Schema.Registry) (steps others : List (String × Schema.Step)),
          List.Forall₂ r.SchemaSteps steps others
          → Schema.runAll registry steps = Schema.runAll registry others := by
  refine ⟨?_, ?_, ?_, ?_⟩
  · intro registers commands others h
    exact ⟨Respelling.run_same h registers, fun n =>
      Respelling.registersAfter_eq (List.forall₂_take n h) registers⟩
  · exact fun around named depth s step other h => h.sameRun around named depth s
  · exact fun held others s edit other h => h.run_eq held others s
  · exact fun registry steps others h => Respelling.runAll_eq h registry

/-- A mapping with a symbol in front of a plain key. -/
def symbolFirst : Mapping :=
  ⟨[(":fat", .int 2), ("college", .int 1)], List.pairwise_pair.mpr (by decide)⟩

/-- The same names the other way round: the symbol in front is the other name. -/
def symbolSecond : Mapping :=
  .ofList [("fat", .int 2), (":college", .int 1)]

/-- A script that makes an object from a mapping, and sets an undeclared name in a block. -/
def plainScript : List Command :=
  [⟨.null, "o", .new "Mom" (some (.mapping symbolFirst))⟩,
    ⟨.null, "o", .step .unknown (.configureWith [(.null, .set "shoe" (.int 3))])⟩]

/-- The same script in another spelling. -/
def symbolScript : List Command :=
  [⟨.null, "o", .new "Mom" (some (.mapping symbolSecond))⟩,
    ⟨.null, "o", .step .unknown (.configureWith [(.null, .set " :shoe " (.int 3))])⟩]

/-- The two mappings are one under respelt keys. -/
theorem mappings_symbolFirst : Respelling.any.Mappings symbolFirst symbolSecond := by
  have hapart : Settings.ApartKeys symbolFirst.entries :=
    show [canonical ":fat", canonical "college"].Nodup by decide
  have hfat : canonical ":fat" = canonical "fat" := by decide
  have hcollege : canonical "college" = canonical ":college" := by decide
  have hpairs : List.Forall₂ Respelling.any.Pairs symbolFirst.entries
      [("fat", .int 2), (":college", .int 1)] :=
    .cons ⟨hfat, rfl⟩ (.cons ⟨hcollege, rfl⟩ .nil)
  exact ⟨hapart, _, hpairs, rfl⟩

/-- The law at these scripts: the mappings are visited in different orders, the block sets
the same name in both, and the one event shows the spelling of each script.
-/
theorem spelling_never_matters_in_block
    : List.Forall₂ Respelling.any.Commands plainScript symbolScript
      ∧ List.Forall₂ Respelling.any.SameEntry (run [] plainScript) (run [] symbolScript)
      ∧ registersAfter [] (plainScript.take 2) = registersAfter [] (symbolScript.take 2)
      ∧ logged (run [] plainScript) = [.undeclared "Mom" "shoe"]
      ∧ logged (run [] symbolScript) = [.undeclared "Mom" " :shoe "] := by
  have hblock : Respelling.any.Blocks [(.null, .set "shoe" (.int 3))]
      [(.null, .set " :shoe " (.int 3))] :=
    .cons .null (.set (show canonical "shoe" = canonical " :shoe " by decide) (.int 3)) .nil
  have hscripts : List.Forall₂ Respelling.any.Commands plainScript symbolScript :=
    .cons (.new .null "o" "Mom" (.mapping mappings_symbolFirst))
      (.cons (.step .null "o" (.same .unknown) (.configureWith hblock)) .nil)
  obtain ⟨hsame, hregisters⟩ :=
    (spelling_never_matters .any).1 [] plainScript symbolScript hscripts
  exact ⟨hscripts, hsame, hregisters 2, rfl, rfl⟩

end DeclaredSettings.Script
