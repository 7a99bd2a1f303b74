import Introspect.Description
import Introspect.Text.Quoted
import Introspect.Text.Outline

/-!
# Accessors

One way to read or write one property of an instance, whether a method or a field backs it. A member
without a body for what is asked of it fails as unbound and leaves the instance as it is.
-/

namespace Introspect

/-- A member used as an accessor, with the type that declares it. -/
inductive Accessor (V : Type) where
  | method (declaring : TypeName) (name : String) (body? : Option (MethodBody V))
  | field (declaring : TypeName) (name : String) (reader? : Option (Reader V))
      (writer? : Option (Writer V))

namespace Accessor

variable {V : Type}

/-- The accessor that invokes a method. -/
def ofMethod (declaring : TypeName) (method : Method V) : Accessor V :=
  .method declaring method.name method.body?

/-- The accessor that reads or writes a field. -/
def ofField (declaring : TypeName) (field : Field V) : Accessor V :=
  .field declaring field.name field.reader? field.writer?

/-- The type that declares the member. -/
def declaring : Accessor V → TypeName
  | .method type _ _ => type
  | .field type _ _ _ => type

/-- The name of the member, which need not be the name of the property. -/
def memberName : Accessor V → String
  | .method _ name _ => name
  | .field _ name _ _ => name

/-- Whether a field backs the property. -/
def isField : Accessor V → Bool
  | .method .. => false
  | .field .. => true

/-- The failure of a member without a body. -/
def unboundError (accessor : Accessor V) : AccessError :=
  .unbound (accessor.declaring.text ++ "::" ++ accessor.memberName)

/-- The body that reads, if the member has one. -/
def reader? : Accessor V → Option (Reader V)
  | .method _ _ (some (.read run)) => some run
  | .method .. => none
  | .field _ _ reader? _ => reader?

/-- The body that writes, if the member has one. -/
def writer? : Accessor V → Option (Writer V)
  | .method _ _ (some (.write run)) => some run
  | .method .. => none
  | .field _ _ _ writer? => writer?

/-- Reads the property of an instance. -/
def get (accessor : Accessor V) (instance_ : V) : Except AccessError (Option V) :=
  match accessor.reader? with
  | some run => run instance_
  | none => .error accessor.unboundError

/-- Writes the property of an instance: gives the instance as it is afterwards, and whether the
write failed. -/
def set (accessor : Accessor V) (instance_ : V) (value : Option V) :
    V × Except AccessError Unit :=
  match accessor.writer? with
  | some run => run instance_ value
  | none => (instance_, .error accessor.unboundError)

/-- The outline of an accessor: what it names, and whether it can be used. -/
def outline : Accessor V → String
  | .method declaring name body? =>
    "Method(" ++ Text.recordOutline "MethodAccessor"
      [("declaring", declaring.outline), ("name", Text.quoted name),
       ("bound", toString body?.isSome)] false ++ ")"
  | .field declaring name reader? writer? =>
    "Field(" ++ Text.recordOutline "FieldAccessor"
      [("declaring", declaring.outline), ("name", Text.quoted name),
       ("readable", toString reader?.isSome), ("writable", toString writer?.isSome)] false ++ ")"

end Accessor

end Introspect
