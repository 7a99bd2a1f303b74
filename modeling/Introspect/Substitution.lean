import Introspect.TypeExpr

/-!
# Substitution of type parameters

`Bindings` says what the type parameters of a declaring type stand for, and `TypeExpr.substitute`
puts that in their place. A parameter without a binding stays.
-/

namespace Introspect

/-- What the type parameters of one type stand for, in the order of their declaration. -/
structure Bindings where
  pairs : List (String × TypeExpr)
  deriving Repr, Inhabited, DecidableEq

namespace Bindings

/-- No binding at all. -/
def empty : Bindings := ⟨[]⟩

/-- Whether there is no binding. -/
def isEmpty (bindings : Bindings) : Bool := bindings.pairs.isEmpty

/-- What a parameter stands for; of two bindings of one name the first counts. -/
def get? (bindings : Bindings) (name : String) : Option TypeExpr := bindings.pairs.lookup name

end Bindings

namespace TypeExpr

mutual

/-- The expression with every bound parameter replaced, at any depth. -/
def substitute (bindings : Bindings) : TypeExpr → TypeExpr
  | .named type => .named type
  | .parameter name => (bindings.get? name).getD (.parameter name)
  | .applied type arguments => .applied type (substituteAll bindings arguments)

/-- Replaces the bound parameters of several expressions. -/
def substituteAll (bindings : Bindings) : List TypeExpr → List TypeExpr
  | [] => []
  | expr :: rest => substitute bindings expr :: substituteAll bindings rest

end

end TypeExpr

end Introspect
