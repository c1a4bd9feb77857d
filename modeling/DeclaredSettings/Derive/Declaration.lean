import DeclaredSettings.Derive.Item
import DeclaredSettings.Derive.StringLiteral
import DeclaredSettings.Name

/-!
Declarations of types of settings objects: what an item says by its `dsl` attributes, after
all of it is checked. The first thing that is wrong is reported with its place.
-/

namespace DeclaredSettings.Derive

/-- A declared name, and the identifier of its setter. -/
structure DeclaredKey where
  name : String
  ident : Ident
  deriving DecidableEq, Repr

/-- Where a type keeps its settings. -/
inductive Storage where
  /-- In a field of its own. -/
  | settings (field : Ident)
  /-- In a field of the type that it builds on. -/
  | base (field : Ident) (type : List Code)
  deriving Repr

/-- A checked declaration. -/
structure Declaration where
  ident : Ident
  visibility : List Code
  keys : List DeclaredKey
  storage : Storage
  /-- The other fields, which get their default values. -/
  defaulted : List Ident
  /-- The path under which generated code finds the library, if it is renamed. -/
  libraryPath : Option (List Code)
  deriving Repr

/-- What is wrong with an item. -/
inductive Cause where
  | generic
  | unnamedFields
  | notAStruct
  /-- A `dsl` attribute has no options at all. -/
  | optionsMissing
  /-- A `dsl` attribute has a value in place of options. -/
  | optionsNotInParentheses
  /-- An attribute ends where an option should be. -/
  | optionExpected
  | literalForOption
  | tokenForOption
  | unknownOption
  | unknownFieldOption
  | parenthesesExpected (atEnd : Bool)
  | identExpected (atEnd : Bool)
  | commaExpected
  | equalsExpected
  | stringExpected (atEnd : Bool)
  /-- A name cannot be the name of a method. -/
  | badName (name : String)
  /-- The path of a renamed library is none. -/
  | badPath (fault : SyntaxFault)
  | bothRoles
  | twoMarked
  | noStorage
  deriving DecidableEq, Repr

/-- The report of a cause. -/
def Cause.message : Cause → String
  | generic => "DslObject cannot be derived for generic structs"
  | unnamedFields => "DslObject requires named fields"
  | notAStruct => "DslObject can only be derived for structs"
  | optionsMissing => "expected attribute arguments in parentheses: #[dsl(...)]"
  | optionsNotInParentheses => "expected parentheses: #[dsl(...)]"
  | optionExpected => atEndOr true "expected nested attribute"
  | literalForOption => "unexpected literal in nested attribute, expected ident"
  | tokenForOption => "unexpected token in nested attribute, expected ident"
  | unknownOption => "unsupported dsl option; expected `keys(...)` or `crate = \"...\"`"
  | unknownFieldOption => "unsupported dsl field option; expected `settings` or `base`"
  | parenthesesExpected atEnd => atEndOr atEnd "expected parentheses"
  | identExpected atEnd => atEndOr atEnd "expected ident"
  | commaExpected => "expected `,`"
  | equalsExpected => "expected `=`"
  | stringExpected atEnd => atEndOr atEnd "expected string literal"
  | badName name => "`" ++ name ++ "` is not a valid attribute name"
  | badPath fault => fault.message
  | bothRoles => "a field cannot be both `settings` and `base`"
  | twoMarked => "only one field may be marked `#[dsl(settings)]` or `#[dsl(base)]`"
  | noStorage =>
    "DslObject needs a `settings: Settings` field, a `#[dsl(settings)]` field or a "
      ++ "`#[dsl(base)]` field"

/-- Why there is no declaration. -/
inductive Refusal where
  /-- Something is wrong at a place. -/
  | fault (cause : Cause) (place : Span)
  /-- A text was to be an identifier and is none; the reader of the item gives up. -/
  | brokenIdent (text : String)
  deriving DecidableEq, Repr

/-- The report of a text that is no identifier. -/
def brokenIdentMessage (text : String) : String :=
  Text.shown text ++ " is not a valid Ident"

/-! ### Options -/

/-- The place of an error at the next token, or at the end of the tokens, which is
`closing`.
-/
def placeOf (closing : Span) : List Tree → Span
  | [] => closing
  | tree :: _ => tree.span

/-- The path of an option: its one identifier, if it is one, and its place from the first
segment on.
-/
structure OptionPath where
  name : Option Ident
  place : Span

/-- Whether an option has this name. -/
def OptionPath.is (path : OptionPath) (name : String) : Bool :=
  path.name == some (.plain name)

/-- The tokens behind two joined colons, if these are here. -/
def colons? (cs : List Tree) : Option (List Tree) :=
  if (Sign.mark "::").isAt cs then some (cs.drop 2) else none

/-- The segments of a path behind the first one: the place of the last, and the tokens
behind it.
-/
def moreSegments (closing : Span)
    : Nat → Span → List Tree → Except Refusal (Span × List Tree)
  | 0, last, cs => .ok (last, cs)
  | fuel + 1, last, cs =>
    match colons? cs with
    | none => .ok (last, cs)
    | some (.ident _ span :: rest) => moreSegments closing fuel span rest
    | some rest => .error (.fault (.identExpected rest.isEmpty) (placeOf closing rest))

/-- The path of the next option, and the tokens behind it. -/
def optionPath (closing : Span) (cs : List Tree)
    : Except Refusal (OptionPath × List Tree) :=
  let (leading, start) :=
    match colons? cs with
    | some rest => (true, rest)
    | none => (false, cs)
  match start with
  | .ident ident span :: rest => do
    let (last, behind) ← moreSegments closing rest.length span rest
    let sole := !leading && behind.length == rest.length
    .ok (⟨if sole then some ident else none, span.upTo last⟩, behind)
  | _ =>
    let cause :=
      if start.isEmpty then Cause.optionExpected
      else if Sign.literal.isAt start then .literalForOption
      else .tokenForOption
    .error (.fault cause (placeOf closing start))

/-- Goes through options from left to right: reads the path of each, lets `option` take what
it needs behind it, and expects a comma or the end, at most `count` times.
-/
def foldOptions {σ : Type} (closing : Span)
    (option : σ → OptionPath → List Tree → Except Refusal (σ × List Tree))
    : Nat → σ → List Tree → Except Refusal σ
  | 0, state, _ => .ok state
  | count + 1, state, cs =>
    match cs with
    | [] => .ok state
    | _ => do
      let (path, rest) ← optionPath closing cs
      let (state, rest) ← option state path rest
      match rest with
      | [] => .ok state
      | .mark ',' _ _ :: rest => foldOptions closing option count state rest
      | tree :: _ => .error (.fault .commaExpected tree.span)

/-- Goes through the options of all `dsl` attributes. -/
def foldAttributes {σ : Type}
    (option : Span → σ → OptionPath → List Tree → Except Refusal (σ × List Tree))
    : σ → List Attribute → Except Refusal σ
  | state, [] => .ok state
  | state, first :: others =>
    if first.name = some (.plain "dsl") then
      match first.content with
      | .none => .error (.fault .optionsMissing first.span)
      | .value mark => .error (.fault .optionsNotInParentheses mark)
      | .list tokens closing => do
        let state ← foldOptions closing (option closing) tokens.length state tokens
        foldAttributes option state others
    else foldAttributes option state others

/-! ### Names -/

/-- A name as it is written in a list of keys: its spelling without marks, and its place. -/
structure WrittenKey where
  name : String
  place : Span

/-- The names in a list of keys, up to the end of the tokens. -/
def writtenKeys (closing : Span) : List Tree → Except Refusal (List WrittenKey)
  | [] => .ok []
  | tree :: rest => do
    let first ←
      match tree with
      | .ident ident span => .ok ⟨ident.name, span⟩
      | .literal text span =>
        match stringValue? text with
        | some value => .ok ⟨canonical value, span⟩
        | none => .error (.fault (.identExpected false) span)
      | tree => .error (.fault (.identExpected false) tree.span)
    match rest with
    | [] => .ok [first]
    | .mark ',' _ _ :: rest => do
      let others ← writtenKeys closing rest
      .ok (first :: others)
    | tree :: _ => .error (.fault .commaExpected tree.span)

/-- The identifier of the setter of a name. A keyword becomes raw; the names that cannot be
raw have none.
-/
def setterIdent (name : String) (place : Span) : Except Refusal Ident :=
  if name ∈ neverRaw then .error (.fault (.badName name) place)
  else
    match soleIdent? name with
    | none => .error (.fault (.badName name) place)
    | some ident =>
      if ident.isKeyword then
        if Text.isIdentifier name.toList then .ok ⟨true, name⟩
        else .error (.brokenIdent name)
      else .ok ident

/-- A name of a list of keys, checked. -/
def WrittenKey.declared (key : WrittenKey) : Except Refusal DeclaredKey := do
  let ident ← setterIdent key.name key.place
  .ok ⟨key.name, ident⟩

/-- Adds a name, unless it is already declared. -/
def addKey (keys : List DeclaredKey) (key : DeclaredKey) : List DeclaredKey :=
  if keys.any (·.name = key.name) then keys else keys ++ [key]

/-! ### Structs -/

/-- What the options of a struct say. -/
structure StructOptions where
  keys : List DeclaredKey
  libraryPath : Option (List Code)

/-- Takes one option of a struct: a list of names, or the path of the library. -/
def structOption (closing : Span) (options : StructOptions) (path : OptionPath)
    (cs : List Tree) : Except Refusal (StructOptions × List Tree) :=
  if path.is "keys" then
    match cs with
    | .group .parenthesis content _ inner :: rest => do
      let written ← writtenKeys inner content
      let declared ← written.mapM WrittenKey.declared
      .ok ({ options with keys := declared.foldl addKey options.keys }, rest)
    | _ => .error (.fault (.parenthesesExpected cs.isEmpty) (placeOf closing cs))
  else if path.is "crate" then
    match cs with
    | .mark '=' _ _ :: rest =>
      match rest with
      | .literal text span :: rest =>
        match stringValue? text with
        | none => .error (.fault (.stringExpected false) span)
        | some value =>
          match pathOf value with
          | .ok code => .ok ({ options with libraryPath := some code }, rest)
          | .error fault => .error (.fault (.badPath fault) span)
      | _ => .error (.fault (.stringExpected rest.isEmpty) (placeOf closing rest))
    | _ => .error (.fault .equalsExpected (placeOf closing cs))
  else .error (.fault .unknownOption path.place)

/-- What the attributes of a struct say. -/
def structOptions (attributes : List Attribute) : Except Refusal StructOptions :=
  foldAttributes structOption ⟨[], none⟩ attributes

/-! ### Fields -/

/-- What a field is marked as. -/
inductive Role where
  | plain
  | settings
  | base
  deriving DecidableEq, Repr

/-- Takes one option of a field. A field may be marked twice with one role, but not with
both.
-/
def fieldOption (_closing : Span) (role : Role) (path : OptionPath) (cs : List Tree)
    : Except Refusal (Role × List Tree) :=
  let mark (next : Role) : Except Refusal (Role × List Tree) :=
    if role ≠ .plain && role ≠ next then .error (.fault .bothRoles path.place)
    else .ok (next, cs)
  if path.is "settings" then mark .settings
  else if path.is "base" then mark .base
  else .error (.fault .unknownFieldOption path.place)

/-- The role that the attributes of a field give it. -/
def Field.role (field : Field) : Except Refusal Role :=
  foldAttributes fieldOption .plain field.attributes

/-- The field that keeps the settings, and its role: the marked one, or else the first that
is named `settings`.
-/
def storageField (nameSpan : Span) (fields : List (Field × Role))
    : Except Refusal (Field × Role) :=
  match fields.filter fun f => f.2 ≠ .plain with
  | [marked] => .ok marked
  | _ :: (second, _) :: _ => .error (.fault .twoMarked second.span)
  | [] =>
    match fields.find? fun f => f.1.name = .plain "settings" with
    | some (field, _) => .ok (field, .settings)
    | none => .error (.fault .noStorage nameSpan)

/-- The storage that a field with its role is. -/
def storageOf (field : Field) : Role → Storage
  | .base => .base field.name field.type
  | _ => .settings field.name

namespace Declaration

/-- The declaration that an item is. -/
def ofItem (item : Item) : Except Refusal Declaration :=
  match item.generics, item.kind with
  | some span, _ => .error (.fault .generic span)
  | none, .unnamed keyword => .error (.fault .unnamedFields keyword)
  | none, .other => .error (.fault .notAStruct item.nameSpan)
  | none, .named fields => do
    let options ← structOptions item.attributes
    let withRoles ← fields.mapM fun field => do .ok (field, ← field.role)
    let (field, role) ← storageField item.nameSpan withRoles
    .ok {
      ident := item.name
      visibility := item.visibility
      keys := options.keys
      storage := storageOf field role
      defaulted := (fields.map (·.name)).filter (· ≠ field.name)
      libraryPath := options.libraryPath }

end Declaration

end DeclaredSettings.Derive
