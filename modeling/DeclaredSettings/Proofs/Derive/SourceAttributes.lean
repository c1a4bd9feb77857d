import DeclaredSettings.Derive.Item
import DeclaredSettings.Proofs.Derive.IdentifierTokens
import DeclaredSettings.Proofs.Outcome.Sequencing

/-! The tokens in the attributes of an item are tokens of the text that the item was read
from, whatever the grammar makes of the rest of it. So what is known of all tokens of texts
is known of these.
-/

namespace DeclaredSettings.Derive

open Outcome

/-- Tokens of which all identifiers are spelled like identifiers. -/
def AllSpelled (cs : List Tree) : Prop :=
  ∀ tree ∈ cs, tree.Spelled

-----------------------------------------------------------------------------------------
-- What readers find and leave
-----------------------------------------------------------------------------------------

namespace Reader

variable {α β : Type} {P : List Tree → Prop}

/-- Where a reader succeeds with tokens in front that satisfy a condition, what it finds and
the tokens behind it satisfy another.
-/
def Yields (P : List Tree → Prop) (reader : Reader α) (Q : α → List Tree → Prop) : Prop :=
  ∀ before a after, reader.run before = .ok (a, after) → P before.rest → Q a after.rest

theorem yields_pure {a : α} {Q : α → List Tree → Prop} (h : ∀ cs, P cs → Q a cs)
    : Yields P (pure a) Q := by
  intro before found after hrun hbefore
  obtain ⟨rfl, rfl⟩ := Prod.mk.inj (Except.ok.inj hrun)
  exact h _ hbefore

/-- A reader goes on from where the one before it ends. -/
theorem Yields.bind {first : Reader α} {next : α → Reader β} {Q : α → List Tree → Prop}
    {R : β → List Tree → Prop} (hfirst : Yields P first Q)
    (hnext : ∀ a, Yields (Q a) (next a) R)
    : Yields P (first >>= next) R := by
  intro before found after hrun hbefore
  rw [StateT.run_bind] at hrun
  obtain ⟨⟨a, middle⟩, hmiddle, hafter⟩ := bind_eq_ok.mp hrun
  exact hnext a _ _ _ hafter (hfirst _ _ _ hmiddle hbefore)

theorem Yields.imp {reader : Reader α} {Q R : α → List Tree → Prop}
    (h : Yields P reader Q) (himp : ∀ a cs, Q a cs → R a cs)
    : Yields P reader R :=
  fun before a after hrun hbefore => himp _ _ (h before a after hrun hbefore)

/-- Nothing is to be known of a reader for it to yield nothing in particular. -/
theorem yields_true (reader : Reader α) : Yields P reader fun _ _ => True :=
  fun _ _ _ _ _ => trivial

theorem yields_throw {fault : SyntaxFault} {Q : α → List Tree → Prop}
    : Yields P (throw fault) Q :=
  fun _ _ _ hrun _ => nomatch hrun

/-- The tokens in front are what is left as long as nothing is read. -/
theorem yields_rest_bind {next : List Tree → Reader α} {Q : α → List Tree → Prop}
    (h : ∀ cs, P cs → Yields (· = cs) (next cs) Q)
    : Yields P (rest >>= next) Q := by
  intro before found after hrun hbefore
  exact h before.rest hbefore before found after hrun rfl

theorem yields_write (code : List Code) : Yields P (write code) fun _ => P := by
  intro before found after hrun hbefore
  obtain ⟨_, rfl⟩ := Prod.mk.inj (Except.ok.inj hrun)
  exact hbefore

theorem yields_goOn {cs : List Tree} {Q : Unit → List Tree → Prop} (h : Q () cs)
    : Yields P (goOn cs) Q := by
  intro before found after hrun hbefore
  obtain ⟨_, rfl⟩ := Prod.mk.inj (Except.ok.inj hrun)
  exact h

theorem yields_missing {choices : List Sign} {Q : α → List Tree → Prop}
    : Yields P (missing choices) Q :=
  (yields_true _).bind fun _ => yields_throw

theorem yields_missing_bind {choices : List Sign} {next : β → Reader α}
    {Q : α → List Tree → Prop}
    : Yields P (missing choices >>= next) Q :=
  Yields.bind (yields_missing (Q := fun _ _ => False)) fun _ _ _ _ _ h => h.elim

theorem yields_wrong {what : Objection} {Q : α → List Tree → Prop}
    : Yields P (wrong what) Q :=
  (yields_true _).bind fun _ => yields_throw

theorem yields_sees (sign : Sign) : Yields P (sees sign) fun _ => P :=
  yields_rest_bind fun _ hcs => yields_pure fun _ heq => heq ▸ hcs

theorem yields_seesAny (signs : List Sign) : Yields P (seesAny signs) fun _ => P :=
  yields_rest_bind fun _ hcs => yields_pure fun _ heq => heq ▸ hcs

/-- What is known without regard to the tokens stays known. -/
theorem yields_of_fact {fact : Prop} {reader : Reader α} {Q : α → List Tree → Prop}
    (h : fact → Yields (fun _ => True) reader Q)
    : Yields (fun _ => fact) reader Q :=
  fun before a after hrun hfact => h hfact before a after hrun trivial

/-- So does what is known besides them. -/
theorem yields_of_and {fact : Prop} {reader : Reader α} {Q : α → List Tree → Prop}
    (h : fact → Yields P reader Q)
    : Yields (fun cs => P cs ∧ fact) reader Q :=
  fun before a after hrun hbefore => h hbefore.2 before a after hrun hbefore.1

/-- What keeps a condition goes on keeping it when it is repeated, by induction on the
number of times.
-/
theorem yields_repeatedUpTo {reader : Reader (Option α)} {Q : α → Prop}
    (h : Yields P reader fun found cs => P cs ∧ ∀ a, found = some a → Q a) (count : Nat)
    : Yields P (repeatedUpTo reader count) fun list cs => P cs ∧ ∀ a ∈ list, Q a := by
  induction count with
  | zero => exact yields_pure fun cs hcs => ⟨hcs, nofun⟩
  | succ count ih =>
      refine h.bind fun found => yields_of_and fun hfound => ?_
      cases found with
      | none => exact yields_pure fun cs hcs => ⟨hcs, nofun⟩
      | some a =>
          refine ih.bind fun list => yields_pure fun cs hcs => ?_
          exact ⟨hcs.1, List.forall_mem_cons.mpr ⟨hfound a rfl, hcs.2⟩⟩

theorem yields_repeated {reader : Reader (Option α)} {Q : α → Prop}
    (h : Yields P reader fun found cs => P cs ∧ ∀ a, found = some a → Q a)
    : Yields P (repeated reader) fun list cs => P cs ∧ ∀ a ∈ list, Q a :=
  yields_rest_bind fun _ hcs before list after hrun heq =>
    yields_repeatedUpTo h _ before list after hrun (heq ▸ hcs)

theorem yields_repeated_same {reader : Reader (Option α)}
    (h : Yields P reader fun _ => P)
    : Yields P (repeated reader) fun _ => P := by
  have hkeeps : Yields P reader fun found cs => P cs ∧ ∀ a, found = some a → True :=
    h.imp fun _ _ hcs => ⟨hcs, fun _ _ => trivial⟩
  exact (yields_repeated hkeeps).imp fun _ _ hcs => hcs.1

/-- What is found besides the tokens that were read is what the reader finds. -/
theorem yields_withTokens {reader : Reader α} {Q : α → List Tree → Prop}
    (h : Yields P reader Q)
    : Yields P (withTokens reader) fun found => Q found.1 := by
  refine yields_rest_bind fun cs hcs => ?_
  have hreader : Yields (· = cs) reader Q :=
    fun before a after hrun heq => h before a after hrun (heq ▸ hcs)
  exact hreader.bind fun a => yields_rest_bind fun behind hbehind =>
    yields_pure fun _ heq => heq ▸ hbehind

-----------------------------------------------------------------------------------------
-- Readers of attributes
-----------------------------------------------------------------------------------------

/-- Taking a sign leaves later tokens. -/
theorem yields_take (sign : Sign) : Yields AllSpelled (take sign) fun _ => AllSpelled := by
  refine yields_rest_bind fun cs hcs => ?_
  have hlater : ∀ {behind : List Tree}, behind <:+ cs → AllSpelled behind :=
    fun hsuffix tree htree => hcs tree (hsuffix.subset htree)
  have hsecond : ∀ {first second : Tree} {behind : List Tree},
      behind <:+ first :: second :: behind :=
    (List.suffix_cons _ _).trans (List.suffix_cons _ _)
  split
  · split
    · exact (yields_write _).bind fun _ => yields_goOn (hlater (List.drop_suffix _ _))
    · exact (yields_write _).bind fun _ => yields_goOn (hlater hsecond)
    · exact (yields_write _).bind fun _ => yields_goOn (hlater hsecond)
    · exact (yields_write _).bind fun _ => yields_goOn (hlater (List.tail_suffix _))
  · split
    · exact yields_throw
    · exact yields_throw
    · exact yields_missing

theorem yields_takeIf (sign : Sign)
    : Yields AllSpelled (takeIf sign) fun _ => AllSpelled := by
  refine (yields_sees sign).bind fun seen => ?_
  split
  · exact (yields_take sign).bind fun _ => yields_pure fun _ hcs => hcs
  · exact yields_pure fun _ hcs => hcs

theorem yields_skipIf (sign : Sign)
    : Yields AllSpelled (skipIf sign) fun _ => AllSpelled := by
  refine (yields_sees sign).bind fun seen => ?_
  split
  · exact yields_take sign
  · exact yields_pure fun _ hcs => hcs

/-- A path without arguments leaves later tokens. -/
theorem yields_plainPath : Yields AllSpelled plainPath fun _ => AllSpelled := by
  refine (yields_skipIf _).bind fun _ => (yields_seesAny _).bind fun _ => ?_
  refine (yields_take _).bind fun _ => ?_
  refine (yields_repeated_same ?_).bind fun _ => yields_pure fun _ hcs => hcs
  refine (yields_takeIf _).bind fun taken => ?_
  split
  · refine (yields_seesAny _).bind fun seen => ?_
    split
    · exact (yields_take _).bind fun _ => yields_pure fun _ hcs => hcs
    · exact yields_wrong
  · exact yields_pure fun _ hcs => hcs

theorem yields_attributePath : Yields AllSpelled attributePath fun _ => AllSpelled := by
  refine (yields_sees _).bind fun seen => ?_
  split
  · exact yields_take _
  · exact yields_plainPath

end Reader

/-- The content of an attribute in which all tokens are spelled. -/
def Attribute.Content.Spelled : Attribute.Content → Prop
  | .list tokens _ => AllSpelled tokens
  | _ => True

namespace Reader

variable (g : Grammar)

/-- The content of an attribute has only tokens that were in front of it. Whatever the
grammar reads as a value is no part of it.
-/
theorem yields_attributeBody
    : Yields AllSpelled (attributeBody g) fun found _ => found.content.Spelled := by
  refine (yields_withTokens yields_attributePath).bind fun path => ?_
  refine yields_rest_bind fun cs hcs => ?_
  dsimp only
  split
  · next delimiter tokens opening closing behind =>
    have htokens : AllSpelled tokens := by
      cases hcs _ List.mem_cons_self with
      | group inner => exact inner
    refine (yields_true _).bind fun _ => ?_
    rw [pure_bind]
    exact yields_pure fun _ _ => htokens
  · refine (yields_true _).bind fun taken => ?_
    split
    · refine (yields_true _).bind fun _ => ?_
      rw [pure_bind]
      exact yields_pure fun _ _ => trivial
    · rw [pure_bind]
      exact yields_pure fun _ _ => trivial
  · rw [pure_bind]
    exact yields_pure fun _ _ => trivial

/-- What is read in brackets leaves the tokens behind them, of which nothing is read there.
-/
theorem yields_inside {α : Type} {delimiter : Delimiter} {reader : Reader α} {Q : α → Prop}
    (h : Yields AllSpelled reader fun found _ => Q found)
    : Yields AllSpelled (inside delimiter reader) fun found cs => AllSpelled cs ∧ Q found := by
  intro before found after hrun hbefore
  -- inside brackets the reader runs on tokens of its own, so the run is opened by hand
  rw [inside, StateT.run_bind] at hrun
  obtain ⟨⟨_, _⟩, hget, hrun⟩ := bind_eq_ok.mp hrun
  obtain ⟨rfl, rfl⟩ := Prod.mk.inj (Except.ok.inj hget)
  dsimp only at hrun
  split at hrun
  · next other content opening closing behind heq =>
    rw [heq] at hbefore
    obtain ⟨hgroup, hbehind⟩ := List.forall_mem_cons.mp hbefore
    split at hrun
    · rw [StateT.run_bind] at hrun
      obtain ⟨⟨_, _⟩, hlift, hrun⟩ := bind_eq_ok.mp hrun
      simp only [liftM, StateT.run_monadLift] at hlift
      obtain ⟨⟨a, inner⟩, hinner, heq⟩ := bind_eq_ok.mp hlift
      obtain ⟨rfl, rfl⟩ := Prod.mk.inj (Except.ok.inj heq)
      obtain ⟨rfl, rfl⟩ := Prod.mk.inj (Except.ok.inj hrun)
      have hcontent : AllSpelled content := by
        cases hgroup with
        | group hcontent => exact hcontent
      exact ⟨hbehind, h _ _ _ hinner hcontent⟩
    · exact absurd hrun nofun
  · exact nomatch hrun

theorem yields_attributes
    : Yields AllSpelled (attributes g) fun found _ => ∀ a ∈ found, a.content.Spelled := by
  refine (yields_repeated ?_).imp fun _ _ hcs => hcs.2
  refine (yields_takeIf _).bind fun taken => ?_
  split
  · refine (yields_inside (yields_attributeBody g)).bind fun found => ?_
    refine yields_pure fun cs hcs => ⟨hcs.1, fun a ha => ?_⟩
    obtain rfl := Option.some.inj ha
    exact hcs.2
  · exact yields_pure fun cs hcs => ⟨hcs, nofun⟩

/-- An item that is read has the attributes that are read in front of it. -/
theorem yields_declaredItem
    : Yields AllSpelled (declaredItem g)
        fun item _ => ∀ a ∈ item.attributes, a.content.Spelled := by
  refine (yields_attributes g).bind fun found => yields_of_fact fun hfound => ?_
  refine (yields_true _).bind fun written => (yields_true _).bind fun cs => ?_
  split
  · refine (yields_true _).bind fun seen => ?_
    dsimp only
    split
    · exact yields_missing_bind
    · refine (yields_true _).bind fun _ => (yields_true _).bind fun _ => ?_
      refine (yields_true _).bind fun _ => (yields_true _).bind fun _ => ?_
      exact yields_pure fun _ _ => hfound
  · exact yields_missing

end Reader

/-- In the attributes of an item that is read from a text all identifiers are spelled like
identifiers.
-/
theorem Item.spelled_of_ofSource? {source : List Char} {item : Item}
    (h : Item.ofSource? source = some item)
    : ∀ a ∈ item.attributes, a.content.Spelled := by
  obtain ⟨trees, htrees, h⟩ := Option.bind_eq_some_iff.mp h
  obtain ⟨⟨found, code⟩, hread, heq⟩ := Option.bind_eq_some_iff.mp h
  obtain rfl := Option.some.inj heq
  obtain ⟨⟨item, after⟩, hstart, hrest⟩ := bind_eq_ok.mp (toOption_eq_some.mp hread)
  dsimp only at hrest
  split at hrest
  · exact nomatch hrest
  · exact nomatch hrest
  · obtain ⟨rfl, _⟩ := Prod.mk.inj (Except.ok.inj hrest)
    exact Reader.yields_declaredItem _ _ _ _ hstart (spelled_of_trees? htrees)

end DeclaredSettings.Derive
