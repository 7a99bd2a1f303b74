import Introspect.Code.Scan
import Introspect.Code.Type

/-!
# Declarations of types

A declaration with its attributes, as far as it matters for describing the type: its name, whether
it takes parameters, and the fields of a struct whose fields have names. Everything else in it is
checked and given up, apart from what shows who may use it and under which conditions.

* `Declaration.parse` reads the text of one declaration.
-/

namespace Introspect.Code

/-! ## What is kept -/

/-- What follows the path of an attribute. -/
inductive AttributeBody where
  | bare
  /-- An equals sign and a value. -/
  | assigned
  /-- The trees inside a group. -/
  | group (inner : List Tree)
  deriving Repr

/-- An attribute in front of a declaration or a field. -/
structure Attribute where
  path : PathForm
  body : AttributeBody
  deriving Repr

/-- A field with a name. -/
structure FieldDeclaration where
  attributes : List Attribute
  /-- Who may use the field. -/
  visibility : List Tree
  /-- The name as it is spelled; a raw one keeps its `r#`. -/
  ident : String
  type : TypeForm
  deriving Repr

/-- What a declared type consists of. -/
inductive DeclaredBody where
  /-- Fields with names. -/
  | named (fields : List FieldDeclaration)
  /-- Fields by position, or none and no braces. -/
  | unnamed
  /-- Alternatives, or fields that share their place. -/
  | alternatives
  deriving Repr

/-- The declaration of a type. -/
structure Declaration where
  attributes : List Attribute
  /-- Who may use the type. -/
  visibility : List Tree
  /-- The name as it is spelled; a raw one keeps its `r#`. -/
  ident : String
  /-- The parameters that the type takes. -/
  parameters : List Tree
  /-- The conditions under which the type is there. -/
  conditions : List Tree
  body : DeclaredBody
  deriving Repr

/-! ## Attributes and visibility -/

/-- The value of an attribute: a literal that stands alone, or any expression. -/
def attributeValue (depth : Nat) : Parser (List Tree) := do
  let trees ← get
  -- a literal that does not stand alone begins an expression
  match Parser.readAll Parser.literal trees with
  | some value =>
    set ([] : List Tree)
    return value
  | none => expressionAt depth true

/-- The inside of an attribute. -/
def attributeContent (depth : Nat) : Parser Attribute := do
  let path ←
    if seesWord "unsafe" (← get) then
      pure ⟨← Parser.word "unsafe", false, ["unsafe"], true, .bare⟩
    else plainPath
  match ← get with
  | .group _ inner :: rest =>
    set rest
    return ⟨path, .group inner⟩
  | trees =>
    if sees "=" trees then
      let _ ← Parser.operator "="
      let _ ← attributeValue depth
      return ⟨path, .assigned⟩
    else
      return ⟨path, .bare⟩

/-- The attributes before a thing, at most as many as a number says. -/
def attributesIn (depth : Nat) : Nat → Parser (List Attribute)
  | 0 => failure
  | rounds + 1 => do
    if !sees "#" (← get) then return []
    let _ ← Parser.operator "#"
    let first ← Parser.within .square (attributeContent depth)
    return first :: (← attributesIn depth rounds)

/-- The attributes before a thing. -/
def attributes (depth : Nat) : Parser (List Attribute) := do
  attributesIn depth ((← get).length + 1)

/-- The inside of the brackets that say how far a thing may be used, if it is that and not the start
of a type. -/
def visibilityScope? (inner : List Tree) : Option (Option (List Tree)) :=
  -- these words may begin a type too, but not alone in brackets
  if seesAnyWord ["crate", "self", "super"] inner && inner.length == 1 then some (some inner)
  else if seesWord "in" inner then
    (Parser.readAll plainPath (inner.drop 1)).map fun path => some (inner.take 1 ++ path.tokens)
  else some none

/-- Who may use a thing. -/
def visibility : Parser (List Tree) := do
  if !seesWord "pub" (← get) then return []
  let word ← Parser.word "pub"
  match ← get with
  | .group .round inner :: rest =>
    match visibilityScope? inner with
    | some (some scope) =>
      set rest
      return word ++ [.group .round scope]
    | some none => return word
    | none => failure
  | _ => return word

/-! ## Parameters and conditions -/

/-- Lifetimes with plus signs between them, up to a test. -/
def lifetimeBounds (stop : List Tree → Bool) : Parser (List Tree) :=
  Parser.separated "+" stop Parser.lifetime

/-- One parameter of a type. -/
def parameter (depth : Nat) : Parser (List Tree) := do
  let attributes ← attributesAt depth
  let trees ← get
  if seesLifetime trees then
    let lifetime ← Parser.lifetime
    if sees ":" (← get) then
      let colon ← Parser.operator ":"
      let bounds ← lifetimeBounds fun trees => sees "," trees || sees ">" trees
      return attributes ++ lifetime ++ colon ++ bounds
    else
      return attributes ++ lifetime
  else if seesName trees then
    let name ← Parser.name
    let bounds ←
      if sees ":" (← get) then
        let colon ← Parser.operator ":"
        let bounds ← boundListAt depth fun trees =>
          sees "," trees || sees ">" trees || sees "=" trees
        pure (colon ++ bounds)
      else pure []
    let usual ←
      if sees "=" (← get) then
        let equals ← Parser.operator "="
        pure (equals ++ (← typeAt depth true).tokens)
      else pure []
    return attributes ++ [.word name] ++ bounds ++ usual
  else if seesWord "const" trees then
    let word ← Parser.word "const"
    let name ← Parser.name
    let colon ← Parser.operator ":"
    let type ← typeAt depth true
    let usual ←
      if sees "=" (← get) then
        let equals ← Parser.operator "="
        pure (equals ++ (← constantAt depth))
      else pure []
    return attributes ++ word ++ [.word name] ++ colon ++ type.tokens ++ usual
  else
    return attributes ++ (← Parser.word "_")

/-- The parameters of a type, without the angle brackets around them. -/
def parameters (depth : Nat) : Parser (List Tree) := do
  if !sees "<" (← get) then return []
  let _ ← Parser.operator "<"
  let parameters ← Parser.separated "," (sees ">") (parameter depth)
  let _ ← Parser.operator ">"
  return parameters

/-- One condition: a lifetime or a type, and what it is bound by. -/
def condition (depth : Nat) : Parser (List Tree) := do
  let trees ← get
  if seesLifetime trees && sees ":" (trees.drop 1) then
    let lifetime ← Parser.lifetime
    let colon ← Parser.operator ":"
    return lifetime ++ colon ++ (← lifetimeBounds endsBounds)
  else
    let binder ← binderAt depth
    let type ← typeAt depth true
    let colon ← Parser.operator ":"
    return binder ++ type.tokens ++ colon ++ (← boundListAt depth endsBounds)

/-- The conditions of a declaration, if it has any. -/
def conditions (depth : Nat) : Parser (List Tree) := do
  if !seesWord "where" (← get) then return []
  let word ← Parser.word "where"
  return word ++ (← Parser.separated "," endsBounds (condition depth))

/-! ## Fields -/

/-- A field with a name. A field without one, marked by an underscore, may spell its fields out in
place of a type. -/
def namedField (depth : Nat) : Nat → Parser FieldDeclaration
  | 0 => failure
  | levels + 1 => do
    let attributes ← attributes depth
    let visibility ← visibility
    let isUnnamed := seesWord "_" (← get)
    let ident ← if isUnnamed then Parser.someWord else Parser.name
    let _ ← Parser.operator ":"
    let trees ← get
    -- the fields of a field without a name are read, and given up
    if isUnnamed && seesAnyWord ["struct", "union"] trees && seesGroup .curly (trees.drop 1) then
      let _ ← Parser.someWord
      let _ ← Parser.within .curly (Parser.listOf (namedField depth levels))
      return { attributes, visibility, ident, type := ⟨trees.take 2, .other⟩ }
    else
      return { attributes, visibility, ident, type := ← typeAt depth true }

/-- Fields with names, between braces. -/
def namedFields (depth : Nat) : Parser (List FieldDeclaration) :=
  Parser.within .curly (Parser.listOf (namedField depth depth))

/-- Fields by position, between round brackets. -/
def positionalFields (depth : Nat) : Parser Unit := do
  let _ ← Parser.within .round (Parser.listOf do
    let _ ← attributes depth
    let _ ← visibility
    typeAt depth true)

/-! ## Declarations -/

/-- The body of a struct, with its conditions. -/
def structBody (depth : Nat) : Parser (List Tree × DeclaredBody) := do
  let before ← conditions depth
  let trees ← get
  -- conditions come after fields by position, and before fields with names
  if before.isEmpty && seesGroup .round trees then
    positionalFields depth
    let after ← conditions depth
    let _ ← Parser.operator ";"
    return (after, .unnamed)
  else if seesGroup .curly trees then
    return (before, .named (← namedFields depth))
  else
    let _ ← Parser.operator ";"
    return (before, .unnamed)

/-- One alternative of a type. -/
def alternative (depth : Nat) : Parser Unit := do
  let _ ← attributes depth
  let _ ← visibility
  let _ ← Parser.name
  let trees ← get
  if seesGroup .curly trees then
    let _ ← namedFields depth
  else if seesGroup .round trees then
    positionalFields depth
  if sees "=" (← get) then
    let _ ← Parser.operator "="
    let _ ← expressionAt depth true

/-- The declaration of a type. -/
def declarationReader : Parser Declaration := do
  let depth := depthOf (← get)
  let attributes ← attributes depth
  let visibility ← visibility
  let trees ← get
  guard (seesAnyWord ["struct", "enum", "union"] trees)
  let _ ← Parser.someWord
  let ident ← Parser.name
  let parameters ← parameters depth
  if seesWord "struct" trees then
    let (conditions, body) ← structBody depth
    return { attributes, visibility, ident, parameters, conditions, body }
  else
    let conditions ← conditions depth
    if seesWord "enum" trees then
      let _ ← Parser.within .curly (Parser.listOf (alternative depth))
    else
      let _ ← namedFields depth
    return { attributes, visibility, ident, parameters, conditions, body := .alternatives }

/-- Reads the text of one declaration. -/
def Declaration.parse (text : String) : Option Declaration :=
  scan text >>= Parser.readAll declarationReader

end Introspect.Code
