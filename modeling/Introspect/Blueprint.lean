import Introspect.Blueprint.Setting

/-!
# Blueprints

What is described of a declared struct: the names of the type and of its properties, and for each
property the field behind it, the type of its values, and whether the field may be absent or is only
read. A field whose type is spelled `Option<T>` is described as a `T` that may be absent.

* `Blueprint.ofDeclaration` makes the blueprint of a declaration, or says why there is none.
-/

namespace Introspect

open Code

/-- What is described of a field. -/
structure FieldBlueprint where
  /-- The name of the field as it is spelled. -/
  ident : String
  /-- The name of the property. -/
  name : String
  /-- The trees of the field's type. -/
  type : List Tree
  /-- The trees of `T`, for a field that is an `Option<T>`. -/
  optional? : Option (List Tree)
  isReadOnly : Bool
  deriving Repr

/-- The trees of the type of the values that a field holds. -/
def FieldBlueprint.valueType (field : FieldBlueprint) : List Tree := field.optional?.getD field.type

/-- What is described of a struct. -/
structure Blueprint where
  /-- The name of the struct as it is spelled. -/
  ident : String
  /-- The name under which the type is described. -/
  typeName : String
  /-- The type has a default, which makes an instance of it. -/
  hasDefault : Bool
  /-- The type registers itself. -/
  autoRegister : Bool
  /-- The fields that are described, in order. -/
  fields : List FieldBlueprint
  deriving Repr

/-- A name without the marks that make it raw. -/
def dropRawMarks : List Char → List Char
  | 'r' :: '#' :: rest => dropRawMarks rest
  | name => name

namespace FieldBlueprint

/-- What is described of a declared field, which is nothing if the field is skipped. -/
def ofField (field : FieldDeclaration) : Except BlueprintError (Option FieldBlueprint) := do
  -- the settings of a skipped field are checked like those of any other
  let settings ← FieldSettings.ofAttributes field.attributes
  if settings.isSkipped then return none
  return some {
    ident := field.ident
    name := settings.name?.getD (String.ofList (dropRawMarks field.ident.toList))
    type := field.type.tokens
    optional? := field.type.optionArgument?
    isReadOnly := settings.isReadOnly }

end FieldBlueprint

namespace Blueprint

/-- The fields of a declaration whose type can be described. -/
def namedFields (declaration : Declaration) : Except BlueprintError (List FieldDeclaration) :=
  -- parameters are refused whatever the body is
  if declaration.parameters.isEmpty then
    match declaration.body with
    | .named fields => .ok fields
    | .unnamed => .error .fieldsWithoutNames
    | .alternatives => .error .notStruct
  else .error .hasParameters

/-- What is described of a declared struct. -/
def ofDeclaration (declaration : Declaration) : Except BlueprintError Blueprint := do
  let fields ← namedFields declaration
  let settings ← TypeSettings.ofAttributes declaration.attributes
  let described ← fields.mapM FieldBlueprint.ofField
  return {
    ident := declaration.ident
    typeName := settings.typeName?.getD declaration.ident
    hasDefault := settings.hasDefault
    autoRegister := settings.autoRegister
    fields := described.filterMap id }

end Blueprint

end Introspect
