import Introspect.Source

/-!
# Subtypes

Questions about the hierarchy that a source describes. A type can be used as another when it is that
type, when the other is `object` and it is no primitive, or when references to superclasses and
interfaces lead from it to the other.
-/

namespace Introspect.Source

variable {V : Type}

/-- The types that one or more supertype references lead to from a type; those that are not
described are among them. -/
def strictSupertypes (source : Source V) (type : TypeName) : List TypeName :=
  (source.walk Description.supertypeNames [] [type]).flatMap fun met => met.2.supertypeNames

/-- Whether a type is described as a primitive. -/
def isPrimitive (source : Source V) (type : TypeName) : Bool :=
  (source.describe type).any fun description => description.kind == .primitive

/-- Whether a value of the type `sub` can stand where one of the type `target` is expected. -/
def isAssignable (source : Source V) (target sub : TypeName) : Bool :=
  if target = sub then true
  else if target = .object then !source.isPrimitive sub
  else target ∈ source.strictSupertypes sub

/-- Whether a type itself is described as an ordered collection. -/
def isMarkedCollection (source : Source V) (type : TypeName) : Bool :=
  (source.describe type).any Description.isCollection

/-- Whether a type is an ordered collection or extends one. -/
def isCollection (source : Source V) (type : TypeName) : Bool :=
  source.isMarkedCollection type ||
    (source.strictSupertypes type).any source.isMarkedCollection

end Introspect.Source
