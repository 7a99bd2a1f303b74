import Introspect.Inquiry

/-!
# Questions to the source

The questions about types that need no profile, as inquiries. Some answers are plain without looking
into the source at all; those do not consult it.
-/

namespace Introspect.Inquiry

variable {V : Type}

/-- Whether a value of the type `sub` can stand where one of the type `target` is expected. -/
def isAssignable (target sub : TypeName) : Inquiry V Bool :=
  if target = sub then .done true
  else .consult fun source => .done (source.isAssignable target sub)

/-- Whether a type is an ordered collection or extends one. -/
def isCollection (type : TypeName) : Inquiry V Bool :=
  .consult fun source => .done (source.isCollection type)

/-- Whether a type is described as a primitive. -/
def isPrimitive (type : TypeName) : Inquiry V Bool :=
  .consult fun source => .done (source.isPrimitive type)

/-- Whether the source describes a type. -/
def isDescribed (type : TypeName) : Inquiry V Bool :=
  .consult fun source => .done (source.describe type).isSome

/-- What the parameters of the declaring type stand for, seen from `sub`. -/
def bindingsBetween (sub declaring : TypeName) : Inquiry V (Option Bindings) :=
  if sub = declaring then .done (some .empty)
  else .consult fun source => .done (source.bindingsBetween sub declaring)

/-- The declared type of a member of `declaring`, as `sub` sees it. -/
def memberType (declared : TypeExpr) (declaring sub : TypeName) : Inquiry V TypeExpr :=
  if sub = declaring ∧ declared.raw?.isSome then .done declared
  else .consult fun source => .done (source.memberType declared declaring sub)

/-- The type of a member without its arguments. -/
def erase (declared : TypeExpr) (declaring : TypeName) : Inquiry V TypeName :=
  match declared.raw? with
  | some type => .done type
  | none => .consult fun source => .done (source.erase declared declaring)

/-- Builds the profile of a type without keeping it. -/
def build (type : TypeName) : Inquiry V (Profile V) :=
  .consult fun source => notes (source.buildNotices type) (ofExcept (source.profile type))

end Introspect.Inquiry
