import Introspect.Error

/-!
# Descriptions of types

A description lists what is declared in a type: its parameters, the types it extends, its methods
and its fields. Members may carry a body that reads or writes a live value; `V` is the type of live
values, of which a body sees one instance and one property value at a time. An absent value is
`none`.
-/

namespace Introspect

/-! ## Bodies -/

/-- Reads a property of an instance. -/
abbrev Reader (V : Type) := V → Except AccessError (Option V)

/-- Writes a property of an instance: gives the instance as the write leaves it, and whether the
write failed. -/
abbrev Writer (V : Type) := V → Option V → V × Except AccessError Unit

/-- What a method does when it is used as an accessor. -/
inductive MethodBody (V : Type) where
  | read (run : Reader V)
  | write (run : Writer V)

/-! ## Members -/

/-- A method that a type declares. -/
structure Method (V : Type) where
  name : String
  returns? : Option TypeExpr
  parameters : List TypeExpr
  /-- Bridge methods only forward to another one and never count as accessors. -/
  isBridge : Bool
  body? : Option (MethodBody V)

/-- A field that a type declares. -/
structure Field (V : Type) where
  name : String
  type : TypeExpr
  isStatic : Bool
  isFinal : Bool
  reader? : Option (Reader V)
  writer? : Option (Writer V)

/-- A constant field is never written. -/
def Field.isConstant {V : Type} (field : Field V) : Bool := field.isStatic && field.isFinal

/-- A field that is read but not written. -/
def Field.isReadOnly {V : Type} (field : Field V) : Bool :=
  field.reader?.isSome && field.writer?.isNone

/-! ## Types -/

/-- The shape of a described type. -/
inductive Kind where
  /-- A type with state. -/
  | concrete
  /-- A type of method declarations alone. -/
  | contract
  /-- A value type without members, never assignable to `object`. -/
  | primitive
  deriving DecidableEq, Repr

/-- The word for a kind. -/
def Kind.word : Kind → String
  | .concrete => "Class"
  | .contract => "Interface"
  | .primitive => "Primitive"

/-- A type parameter and the type that its arguments must conform to. -/
structure Parameter where
  name : String
  bound : TypeName
  deriving DecidableEq, Repr

/-- All that is declared in one type. -/
structure Description (V : Type) where
  type : TypeName
  kind : Kind
  isCollection : Bool
  parameters : List Parameter
  superclass? : Option TypeExpr
  interfaces : List TypeExpr
  methods : List (Method V)
  fields : List (Field V)
  /-- The value of a new instance, where the type has a default constructor. -/
  constructor? : Option V

namespace Description

variable {V : Type}

/-- A description in which only the type and its kind are given. -/
def plain (type : TypeName) (kind : Kind) : Description V :=
  { type, kind, isCollection := false, parameters := [], superclass? := none, interfaces := [],
    methods := [], fields := [], constructor? := none }

/-- The superclass, then the interfaces. -/
def supertypes (description : Description V) : List TypeExpr :=
  description.superclass?.toList ++ description.interfaces

/-- The types that the superclass and the interfaces name. -/
def supertypeNames (description : Description V) : List TypeName :=
  description.supertypes.filterMap TypeExpr.raw?

/-- The types that the interfaces name. -/
def interfaceNames (description : Description V) : List TypeName :=
  description.interfaces.filterMap TypeExpr.raw?

/-- The type that the superclass names. -/
def superclassName? (description : Description V) : Option TypeName :=
  description.superclass?.bind TypeExpr.raw?

end Description

end Introspect
