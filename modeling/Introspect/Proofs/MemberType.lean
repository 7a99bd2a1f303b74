import Introspect.MemberType

/-!
# Member types and erasures

Two views of what a member declares: its type as a subtype sees it, and its erasure in the type that
declares it. Both look for the same type, unless the member is declared as a bare type parameter and
a subtype is the one to look.

Main results:

* `valueType_memberType_self`: seen from the type that declares it, a member has the erased type.
* `valueType_memberType`: a member that is declared as no bare parameter has it from everywhere.
-/

namespace Introspect

namespace TypeExpr

mutual

/-- Nothing is replaced where nothing is bound. -/
theorem substitute_empty : ∀ expr : TypeExpr, expr.substitute .empty = expr
  | .named _ => by rw [substitute]
  | .parameter _ => by
    rw [substitute]
    rfl
  | .applied _ arguments => by rw [substitute, substituteAll_empty arguments]

/-- Nothing is replaced in several expressions where nothing is bound. -/
theorem substituteAll_empty : ∀ exprs : List TypeExpr, substituteAll .empty exprs = exprs
  | [] => by rw [substituteAll]
  | expr :: rest => by rw [substituteAll, substitute_empty expr, substituteAll_empty rest]

end

end TypeExpr

namespace Source

variable {V : Type} {source : Source V} {declared : TypeExpr} {declaring sub type : TypeName}

/-- From a type to itself nothing is bound. -/
theorem bindingsBetween_self : source.bindingsBetween type type = some .empty := by
  unfold bindingsBetween referenceLimit
  rw [seekBindings, if_pos rfl]

/-- A scope that is searched twice is searched once. -/
theorem parameterBound_twice (name : String) :
    source.parameterBound name [type, type] = source.parameterBound name [type] := by
  unfold parameterBound
  -- the second time finds nothing that the first did not
  rw [List.findSome?_cons, List.findSome?_cons]
  split
  · rfl
  · rfl

/-- The type that declares a member sees the type that is left when arguments are forgotten. -/
theorem valueType_memberType_self :
    (source.memberType declared type type).valueType = source.erase declared type := by
  unfold memberType
  rw [bindingsBetween_self, Option.getD_some, TypeExpr.substitute_empty]
  cases declared with
  | named raw => rfl
  | applied raw arguments => rfl
  | parameter name =>
    -- the two scopes are one
    show source.parameterBound name [type, type] = source.parameterBound name [type]
    exact parameterBound_twice name

/-- Arguments are all that a subtype sees differently, unless a bare parameter is declared. -/
theorem valueType_memberType (hDeclared : ∀ name, declared ≠ .parameter name) :
    (source.memberType declared declaring sub).valueType = source.erase declared declaring := by
  unfold memberType
  -- only a parameter may be replaced by something else
  cases declared with
  | named raw =>
    rw [TypeExpr.substitute]
    rfl
  | applied raw arguments =>
    rw [TypeExpr.substitute]
    rfl
  | parameter name => exact absurd rfl (hDeclared name)

end Source

end Introspect
