import Introspect.Description

/-!
# Values

The live values that descriptions are used on: primitives, texts, lists, records with fixed fields,
and objects made of free slots. Every value has one exact shape, and a value of one shape is never
taken for one of another, not even where both are numbers.
-/

namespace Introspect

/-! ## Shapes -/

/-- The exact type of a value. -/
inductive Shape where
  /-- A truth value, a character or a number, by the name of its type. -/
  | primitive (name : String)
  | text
  | list (element : Shape)
  /-- A value that may be absent; it stands only inside lists and fields. -/
  | optional (value : Shape)
  /-- A record, by its identifier and by the name that it is described under. -/
  | record (ident : String) (type : TypeName)
  /-- An object made of slots. -/
  | slots
  deriving DecidableEq, Repr

namespace Shape

/-- The type expression that a shape is described as. A value that may be absent is described as the
value: absence belongs to the place and not to the type. -/
def typeExpr : Shape → TypeExpr
  | .primitive name => .named ⟨name⟩
  | .text => .named ⟨"String"⟩
  | .list element => .applied .vec [element.typeExpr]
  | .optional value => value.typeExpr
  | .record _ type => .named type
  | .slots => .named ⟨"Obj"⟩

/-- The described types that a shape refers to. -/
def references : Shape → List TypeName
  | .list element => element.references
  | .optional value => value.references
  | .record _ type => [type]
  | _ => []

end Shape

/-! ## Values -/

/-- A live value. What may be absent inside it is an `Option`. -/
inductive Value where
  | bool (value : Bool)
  | char (value : Char)
  /-- A whole number, with the name of its type. -/
  | number (type : String) (value : Int)
  | text (value : String)
  | list (element : Shape) (items : List (Option Value))
  | record (ident : String) (type : TypeName) (fields : List (String × Option Value))
  | slots (entries : List (String × Option Value))
  deriving Repr

/-- What a list of named values holds under a name; nothing counts as absent. -/
def namedValue (entries : List (String × Option Value)) (name : String) : Option Value :=
  (entries.lookup name).join

/-- Puts a value under a name that a list of named values has. -/
def replaceNamed (entries : List (String × Option Value)) (name : String) (value : Option Value) :
    List (String × Option Value) :=
  entries.map fun entry => if entry.1 = name then (name, value) else entry

/-- Puts a value under a name, in the place that the order of names gives it. -/
def insertNamed (entries : List (String × Option Value)) (name : String) (value : Option Value) :
    List (String × Option Value) :=
  match entries with
  | [] => [(name, value)]
  | entry :: rest =>
    if name < entry.1 then (name, value) :: entry :: rest
    else if name = entry.1 then (name, value) :: rest
    else entry :: insertNamed rest name value

/-- The shape of a value. -/
def Value.shape : Value → Shape
  | .bool _ => .primitive "bool"
  | .char _ => .primitive "char"
  | .number type _ => .primitive type
  | .text _ => .text
  | .list element _ => .list element
  | .record ident type _ => .record ident type
  | .slots _ => .slots

/-! ## Taking a written value -/

namespace Shape

/-- The value, if it is there and has the shape. -/
def take (shape : Shape) (expected : TypeName) : Option Value → Except AccessError Value
  | none => .error (.absentValue expected)
  | some value => if value.shape = shape then .ok value else .error (.valueMismatch expected)

/-- The value, if it is absent or has the shape. -/
def takeOptional (shape : Shape) (expected : TypeName) :
    Option Value → Except AccessError (Option Value)
  | none => .ok none
  | some value => (shape.take expected (some value)).map some

end Shape

end Introspect
