import Introspect.Source
import Introspect.Substitution

/-!
# Types of members, seen from a subtype

A member may be declared in terms of the type parameters of the type that declares it. Seen from a
subtype, the references on the way up say what these parameters stand for.

* `Source.bindingsBetween` follows the references depth first and gives what they bind.
* `Source.memberType` is the declared type of a member as the subtype sees it.
* `Source.erase` forgets all arguments: what is left is one type, for a parameter its bound.
-/

namespace Introspect.Source

variable {V : Type}

/-- How many references a search follows from its start at most, so that it ends on cycles. -/
def referenceLimit : Nat := 65

/-- What a reference binds the parameters of the type it names to: its arguments in order, as the
referring type sees them. A type that is not described has no parameters. -/
def referenceBindings (source : Source V) (outer : Bindings) (reference : TypeExpr)
    (type : TypeName) : Bindings :=
  match source.describe type with
  | none => .empty
  | some description =>
    ⟨(description.parameters.zip reference.arguments).map fun (parameter, argument) =>
      (parameter.name, argument.substitute outer)⟩

/-- Searches for the declaring type with at most so many references left to follow. -/
def seekBindings (source : Source V) (declaring : TypeName) :
    Nat → TypeName → Bindings → Option Bindings
  | 0, current, bindings => if current = declaring then some bindings else none
  | left + 1, current, bindings =>
    if current = declaring then some bindings
    else
      match source.describe current with
      | none => none
      | some description =>
        -- depth first: all that one reference leads to is searched before the next reference
        description.supertypes.findSome? fun reference =>
          match reference.raw? with
          | none => none
          | some type =>
            source.seekBindings declaring left type
              (source.referenceBindings bindings reference type)

/-- What the parameters of the declaring type stand for, seen from `sub`; nothing if no references
lead there. -/
def bindingsBetween (source : Source V) (sub declaring : TypeName) : Option Bindings :=
  source.seekBindings declaring referenceLimit sub .empty

/-- The bound of a parameter, in the first of the described types that declares it; without one it
is `object`. -/
def parameterBound (source : Source V) (name : String) (scopes : List TypeName) : TypeName :=
  let declared := scopes.findSome? fun scope =>
    (source.describe scope).bind fun description =>
      (description.parameters.find? (·.name == name)).map Parameter.bound
  declared.getD .object

/-- The declared type of a member of `declaring`, as `sub` sees it. A parameter that is left alone
gives way to its bound; one that is left as an argument stays. -/
def memberType (source : Source V) (declared : TypeExpr) (declaring sub : TypeName) : TypeExpr :=
  match declared.substitute ((source.bindingsBetween sub declaring).getD .empty) with
  | .parameter name => .named (source.parameterBound name [declaring, sub])
  | expr => expr

/-- The type of a member without its arguments, in the scope of the declaring type. -/
def erase (source : Source V) (declared : TypeExpr) (declaring : TypeName) : TypeName :=
  match declared with
  | .named type => type
  | .applied type _ => type
  | .parameter name => source.parameterBound name [declaring]

end Introspect.Source
