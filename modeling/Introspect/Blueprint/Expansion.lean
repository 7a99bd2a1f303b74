import Introspect.Blueprint

/-!
# Expansions

The code that a blueprint stands for: how the type names itself and registers, and how it is
described, with a reader and a writer for each field. The code names the library by a path, since a
program may know the library under another name.

* `Blueprint.expand` writes the code.
-/

namespace Introspect

open Code

namespace Expansion

/-! ## Pieces of code -/

/-- Two colons. -/
def colons : List Tree := [.mark ':' true, .mark ':' false]

/-- A mark that stands alone. -/
def lone (c : Char) : Tree := .mark c false

/-- What a path leads to by more words. -/
def at_ (path : List Tree) (words : List String) : List Tree :=
  path ++ words.flatMap fun word => colons ++ [.word word]

/-- Trees between angle brackets. -/
def angled (inner : List Tree) : List Tree := [lone '<'] ++ inner ++ [lone '>']

/-- A type as it meets a bound. -/
def asBound (type bound : List Tree) : List Tree := angled (type ++ [.word "as"] ++ bound)

/-- An attribute that asks for the code to be put in place of calls. -/
def inlined : List Tree := [lone '#', .group .square [.word "inline"]]

/-- A function without a result. -/
def procedure (name : String) (parameters body : List Tree) : List Tree :=
  [.word "fn", .word name, .group .round parameters, .group .curly body]

/-- A function without parameters. -/
def constant (name : String) (result body : List Tree) : List Tree :=
  [.word "fn", .word name, .group .round [], .mark '-' true, .mark '>' false] ++ result ++
    [.group .curly body]

/-- How a type meets a bound. -/
def implementation (bound : List Tree) (ident : String) (body : List Tree) : List Tree :=
  [.word "impl"] ++ bound ++ [.word "for", .word ident, .group .curly body]

/-- A literal for a text. -/
def quoted (text : String) : Tree := .literal (quotedLiteral text)

/-- A call of a member. -/
def member (name : String) (arguments : List Tree) : List Tree :=
  [lone '.', .word name, .group .round arguments]

/-- The parameter for the catalog that types are registered in. -/
def catalogParameter (exports : List Tree) : List Tree :=
  [.word "catalog", lone ':', lone '&', .word "mut"] ++ at_ exports ["TypeCatalog"]

/-- The name that the type is described under, asked of the type itself. -/
def ownName (exports : List Tree) : List Tree :=
  asBound [.word "Self"] (at_ exports ["Described"]) ++ colons ++ [.word "ty", .group .round []]

/-! ## Fields -/

/-- A function that uses a field, applied to the type and to the type of the field's values. -/
def accessBody (exports : List Tree) (function : String) (field : FieldBlueprint)
    (borrow : List Tree) : List Tree :=
  at_ exports [function] ++ colons ++
    angled ([.word "Self", lone ','] ++ field.valueType) ++
    [.group .round
      ([lone '|', .word "this", lone '|'] ++ borrow ++
        [.word "this", lone '.', .word field.ident])]

/-- The function that reads a field. -/
def readFunction (field : FieldBlueprint) : String :=
  if field.optional?.isSome then "read_optional_field" else "read_field"

/-- The function that writes a field. -/
def writeFunction (field : FieldBlueprint) : String :=
  if field.optional?.isSome then "write_optional_field" else "write_field"

/-- The name of a property and the type of its values. -/
def fieldHead (exports : List Tree) (field : FieldBlueprint) : List Tree :=
  at_ exports ["FieldInfo", "new"] ++
    [.group .round
      ([quoted field.name, lone ','] ++ asBound field.valueType (at_ exports ["TypeOf"]) ++
        colons ++ [.word "generic_type", .group .round []])]

/-- How one field is described. -/
def fieldTokens (exports : List Tree) (field : FieldBlueprint) : List Tree :=
  member "with_field"
    (fieldHead exports field ++
      member "with_reader" (accessBody exports (readFunction field) field [lone '&']) ++
      (if field.isReadOnly then []
       else
        member "with_writer"
          (accessBody exports (writeFunction field) field [lone '&', .word "mut"])))

/-- How the type of a field's values is registered. -/
def dependencyTokens (exports : List Tree) (field : FieldBlueprint) : List Tree :=
  asBound field.valueType (at_ exports ["TypeOf"]) ++ colons ++
    [.word "register_type", .group .round [.word "catalog"], lone ';']

/-! ## Types -/

/-- How the type is known as the type of a value. -/
def typeOfTokens (exports : List Tree) (blueprint : Blueprint) : List Tree :=
  implementation (at_ exports ["TypeOf"]) blueprint.ident
    (inlined ++
      constant "generic_type" (at_ exports ["GenericType"])
        (at_ exports ["GenericType", "Concrete"] ++ [.group .round (ownName exports)]) ++
      inlined ++
      procedure "register_type" (catalogParameter exports)
        ([.word "catalog", lone '.', .word "register"] ++ colons ++ angled [.word "Self"] ++
          [.group .round [], lone ';']))

/-- How the type makes an instance, if it has a default. -/
def constructorTokens (exports : List Tree) (blueprint : Blueprint) : List Tree :=
  if blueprint.hasDefault then
    member "with_default_constructor"
      (at_ exports ["default_factory"] ++ colons ++ angled [.word "Self"] ++ [.group .round []])
  else []

/-- How the type is described. -/
def describedTokens (exports : List Tree) (blueprint : Blueprint) : List Tree :=
  implementation (at_ exports ["Described"]) blueprint.ident
    (inlined ++
      constant "ty" (at_ exports ["Type"])
        (at_ exports ["Type", "from_static"] ++ [.group .round [quoted blueprint.typeName]]) ++
      constant "type_info" (at_ exports ["TypeInfo"])
        (at_ exports ["TypeInfo", "class"] ++ [.group .round (ownName exports)] ++
          blueprint.fields.flatMap (fieldTokens exports) ++
          constructorTokens exports blueprint) ++
      procedure "register_dependencies" (catalogParameter exports)
        ([.word "let", .word "_", lone '=', lone '&', .word "catalog", lone ';'] ++
          blueprint.fields.flatMap (dependencyTokens exports)))

/-- How the type registers itself, if it does. -/
def registrationTokens (exports : List Tree) (blueprint : Blueprint) : List Tree :=
  if blueprint.autoRegister then
    at_ exports ["auto_register", "inventory", "submit"] ++
      [lone '!',
        .group .curly
          (at_ exports ["auto_register", "AutoRegistration"] ++
            [.group .round
              (at_ exports ["TypeCatalog", "register"] ++ colons ++
                angled [.word blueprint.ident])])]
  else []

end Expansion

/-- The code for a blueprint, with the path by which it names the library. -/
def Blueprint.expand (blueprint : Blueprint) (path : List Tree) : List Tree :=
  let exports := Expansion.at_ path ["__macro_exports"]
  Expansion.typeOfTokens exports blueprint ++ Expansion.describedTokens exports blueprint ++
    Expansion.registrationTokens exports blueprint

end Introspect
