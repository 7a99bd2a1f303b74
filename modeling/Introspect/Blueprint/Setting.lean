import Introspect.Code.Declaration

/-!
# Settings in attributes

A declaration may carry `describe` attributes, and so may each of its fields. Such an attribute
holds settings with commas between them. Settings that only switch something on are words; the
others give a name after an equals sign. The first thing that is wrong, read from left to right, is
what is reported.

* `TypeSettings.ofAttributes` and `FieldSettings.ofAttributes` read the attributes of a declaration
  and of a field. Of two settings that give the same name the later one counts.
-/

namespace Introspect

open Code

/-- Why a declaration cannot be described. -/
inductive BlueprintError where
  /-- The type takes parameters. -/
  | hasParameters
  /-- A struct without named fields. -/
  | fieldsWithoutNames
  /-- Something other than a struct. -/
  | notStruct
  /-- An attribute without settings. -/
  | bareAttribute
  /-- An attribute with an equals sign in place of its settings. -/
  | assignedAttribute
  /-- The settings end where a setting is expected. -/
  | missingSetting
  /-- A literal stands where a setting is expected. -/
  | literalForSetting
  /-- Something else that is no word stands where a setting is expected. -/
  | tokenForSetting
  /-- No word follows two colons in the path of a setting. -/
  | missingWord (atEnd : Bool)
  /-- No comma follows a setting. -/
  | missingComma
  /-- No equals sign follows a setting that gives a name. -/
  | missingEquals
  /-- No string follows the equals sign. -/
  | missingString (atEnd : Bool)
  | unknownTypeSetting
  | unknownFieldSetting
  /-- A type may not be described under the empty name. -/
  | emptyTypeName
  deriving DecidableEq, Repr

namespace BlueprintError

/-- A wording that tells when there is nothing left to read. -/
def orEnd (atEnd : Bool) (expected : String) : String :=
  if atEnd then "unexpected end of input, " ++ expected else expected

/-- The wording of each cause. -/
def message : BlueprintError → String
  | .hasParameters => "`Describe` cannot be derived for generic types"
  | .fieldsWithoutNames => "`Describe` requires a struct with named fields"
  | .notStruct => "`Describe` can only be derived for structs"
  | .bareAttribute => "expected attribute arguments in parentheses: #[describe(...)]"
  | .assignedAttribute => "expected parentheses: #[describe(...)]"
  | .missingSetting => orEnd true "expected nested attribute"
  | .literalForSetting => "unexpected literal in nested attribute, expected ident"
  | .tokenForSetting => "unexpected token in nested attribute, expected ident"
  | .missingWord atEnd => orEnd atEnd "expected ident"
  | .missingComma => "expected `,`"
  | .missingEquals => "expected `=`"
  | .missingString atEnd => orEnd atEnd "expected string literal"
  | .unknownTypeSetting => "expected `default`, `auto_register` or `type_name = \"...\"`"
  | .unknownFieldSetting => "expected `skip`, `read_only` or `rename = \"...\"`"
  | .emptyTypeName => "`type_name` cannot be empty"

end BlueprintError

/-! ## Reading settings -/

/-- Reads one setting, its path given as a word if it is one, from what follows the path. -/
abbrev SettingReader (α : Type) :=
  Option String → List Tree → Except BlueprintError (α × List Tree)

namespace SettingReader

/-- The words that follow the first one in the path of a setting: whether there are any, and what
follows them. -/
def moreWords : List Tree → Except BlueprintError (Bool × List Tree)
  | .mark ':' true :: .mark ':' _ :: .word _ :: rest => (moreWords rest).map fun (_, rest) =>
    (true, rest)
  | .mark ':' true :: .mark ':' _ :: rest => .error (.missingWord rest.isEmpty)
  | rest => .ok (false, rest)

/-- The path of a setting, as a word if it is one, and what follows it. -/
def path (trees : List Tree) : Except BlueprintError (Option String × List Tree) :=
  -- a path that begins with two colons is no word, whatever follows them
  let local_ := (afterOperator? [':', ':'] trees).getD trees
  let isGlobal := (afterOperator? [':', ':'] trees).isSome
  match local_ with
  | [] => .error .missingSetting
  | .word word :: rest => do
    let (hasMore, rest) ← moreWords rest
    return (if isGlobal || hasMore then none else some word, rest)
  | _ => .error (if seesLiteral local_ then .literalForSetting else .tokenForSetting)

/-- The name that a setting gives: an equals sign and a string. -/
def name (trees : List Tree) : Except BlueprintError (String × List Tree) :=
  match afterOperator? ['='] trees with
  | none => .error .missingEquals
  | some rest =>
    match rest with
    | .literal literal :: after =>
      match stringText? literal with
      | some text => .ok (text, after)
      | none => .error (.missingString false)
    | _ => .error (.missingString rest.isEmpty)

/-- Settings with commas between them, at most as many as a number says; a comma may stand after
the last. -/
def settingsIn (reader : SettingReader α) :
    Nat → List Tree → Except BlueprintError (List α)
  | 0, _ => .ok []
  | rounds + 1, trees =>
    if trees.isEmpty then .ok []
    else do
      let (word?, rest) ← path trees
      let (setting, rest) ← reader word? rest
      -- nothing needs to follow the last setting
      if rest.isEmpty then return [setting]
      match afterOperator? [','] rest with
      | none => .error .missingComma
      | some rest => return setting :: (← settingsIn reader rounds rest)

/-- Settings with commas between them; a setting takes a tree or more. -/
def settings (reader : SettingReader α) (trees : List Tree) : Except BlueprintError (List α) :=
  settingsIn reader trees.length trees

/-- The settings in one attribute. -/
def ofBody (reader : SettingReader α) : AttributeBody → Except BlueprintError (List α)
  | .bare => .error .bareAttribute
  | .assigned => .error .assignedAttribute
  | .group inner => reader.settings inner

/-- The settings in all `describe` attributes, in order. -/
def ofAttributes (reader : SettingReader α) (attributes : List Attribute) :
    Except BlueprintError (List α) := do
  let found ← (attributes.filter (·.path.word? == some "describe")).mapM (reader.ofBody ·.body)
  return found.flatten

end SettingReader

/-! ## Settings of a type -/

/-- A setting of a type. -/
inductive TypeSetting where
  /-- The type has a default, which makes an instance of it. -/
  | hasDefault
  /-- The type registers itself. -/
  | autoRegister
  /-- The name under which the type is described. -/
  | typeName (name : String)
  deriving DecidableEq, Repr

/-- Reads a setting of a type. -/
def TypeSetting.reader : SettingReader TypeSetting
  | some "default", rest => .ok (.hasDefault, rest)
  | some "auto_register", rest => .ok (.autoRegister, rest)
  | some "type_name", rest => do
    let (name, rest) ← SettingReader.name rest
    if name.isEmpty then .error .emptyTypeName else return (.typeName name, rest)
  | _, _ => .error .unknownTypeSetting

/-- What the settings of a type come to. -/
structure TypeSettings where
  hasDefault : Bool := false
  autoRegister : Bool := false
  typeName? : Option String := none
  deriving DecidableEq, Repr

namespace TypeSettings

/-- One more setting. -/
def add (settings : TypeSettings) : TypeSetting → TypeSettings
  | .hasDefault => { settings with hasDefault := true }
  | .autoRegister => { settings with autoRegister := true }
  | .typeName name => { settings with typeName? := some name }

/-- What some attributes say of a type. -/
def ofAttributes (attributes : List Attribute) : Except BlueprintError TypeSettings :=
  (TypeSetting.reader.ofAttributes attributes).map (·.foldl add {})

end TypeSettings

/-! ## Settings of a field -/

/-- A setting of a field. -/
inductive FieldSetting where
  /-- The field is not described. -/
  | skip
  /-- Nothing writes the field. -/
  | readOnly
  /-- The name of the property. -/
  | rename (name : String)
  deriving DecidableEq, Repr

/-- Reads a setting of a field. -/
def FieldSetting.reader : SettingReader FieldSetting
  | some "skip", rest => .ok (.skip, rest)
  | some "read_only", rest => .ok (.readOnly, rest)
  | some "rename", rest => do
    let (name, rest) ← SettingReader.name rest
    return (.rename name, rest)
  | _, _ => .error .unknownFieldSetting

/-- What the settings of a field come to. -/
structure FieldSettings where
  isSkipped : Bool := false
  isReadOnly : Bool := false
  name? : Option String := none
  deriving DecidableEq, Repr

namespace FieldSettings

/-- One more setting. -/
def add (settings : FieldSettings) : FieldSetting → FieldSettings
  | .skip => { settings with isSkipped := true }
  | .readOnly => { settings with isReadOnly := true }
  | .rename name => { settings with name? := some name }

/-- What some attributes say of a field. -/
def ofAttributes (attributes : List Attribute) : Except BlueprintError FieldSettings :=
  (FieldSetting.reader.ofAttributes attributes).map (·.foldl add {})

end FieldSettings

end Introspect
