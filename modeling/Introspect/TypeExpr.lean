import Introspect.Text.Quoted
import Introspect.Text.Outline

/-!
# Types and type expressions

A type is known by its name alone; what is known about it stands in its description. The declared
type of a member is a type expression: a type, a type parameter of the declaring type, or a type
applied to arguments.
-/

namespace Introspect

/-! ## Types -/

/-- The identity of a type: two types are the same exactly when their names are equal. -/
structure TypeName where
  text : String
  deriving DecidableEq, Repr, Inhabited

namespace TypeName

/-- The root of every class hierarchy; walks over superclasses stop before it. -/
def object : TypeName := ⟨"object"⟩

/-- The truth values, the only type that a getter named `isX` may return. -/
def bool : TypeName := ⟨"bool"⟩

/-- The growable sequence. -/
def vec : TypeName := ⟨"Vec"⟩

/-- A type in an outline. -/
def outline (type : TypeName) : String := "Type(" ++ type.text ++ ")"

end TypeName

/-! ## Type expressions -/

/-- The declared type of a member. -/
inductive TypeExpr where
  /-- A type without arguments. -/
  | named (type : TypeName)
  /-- A type parameter of the declaring type. -/
  | parameter (name : String)
  /-- A type with arguments; there may be none between its brackets. -/
  | applied (type : TypeName) (arguments : List TypeExpr)
  deriving Repr, Inhabited

namespace TypeExpr

/-- The type that an expression names, which a parameter does not. -/
def raw? : TypeExpr → Option TypeName
  | .named type => some type
  | .parameter _ => none
  | .applied type _ => some type

/-- The arguments that a type is applied to. -/
def arguments : TypeExpr → List TypeExpr
  | .applied _ arguments => arguments
  | _ => []

/-- The argument of a type with exactly one. -/
def soleArgument? (expr : TypeExpr) : Option TypeExpr :=
  match expr.arguments with
  | [argument] => some argument
  | _ => none

mutual

/-- Decides whether two expressions are the same. -/
def decEq : (a b : TypeExpr) → Decidable (a = b)
  | .named a, .named b =>
    if same : a = b then isTrue (congrArg named same) else isFalse fun h => same (named.inj h)
  | .parameter a, .parameter b =>
    if same : a = b then isTrue (congrArg parameter same)
    else isFalse fun h => same (parameter.inj h)
  | .applied a xs, .applied b ys =>
    if same : a = b then
      match decEqAll xs ys with
      | isTrue all => isTrue (by rw [same, all])
      | isFalse differ => isFalse fun h => differ (applied.inj h).2
    else isFalse fun h => same (applied.inj h).1
  | .named _, .parameter _ => isFalse nofun
  | .named _, .applied _ _ => isFalse nofun
  | .parameter _, .named _ => isFalse nofun
  | .parameter _, .applied _ _ => isFalse nofun
  | .applied _ _, .named _ => isFalse nofun
  | .applied _ _, .parameter _ => isFalse nofun

/-- Decides whether two lists of expressions are the same. -/
def decEqAll : (xs ys : List TypeExpr) → Decidable (xs = ys)
  | [], [] => isTrue rfl
  | x :: xs, y :: ys =>
    match decEq x y, decEqAll xs ys with
    | isTrue first, isTrue rest => isTrue (by rw [first, rest])
    | isFalse differ, _ => isFalse fun h => differ (List.cons.inj h).1
    | _, isFalse differ => isFalse fun h => differ (List.cons.inj h).2
  | [], _ :: _ => isFalse nofun
  | _ :: _, [] => isFalse nofun

end

instance : DecidableEq TypeExpr := decEq

mutual

/-- The text of an expression, arguments between angle brackets. -/
def render : TypeExpr → String
  | .named type => type.text
  | .parameter name => name
  | .applied type arguments => type.text ++ "<" ++ ", ".intercalate (renderAll arguments) ++ ">"

/-- The texts of several expressions. -/
def renderAll : List TypeExpr → List String
  | [] => []
  | expr :: rest => render expr :: renderAll rest

end

mutual

/-- An expression in an outline. -/
def outline : TypeExpr → String
  | .named type => "Concrete(" ++ type.outline ++ ")"
  | .parameter name => "Param(" ++ Text.quoted name ++ ")"
  | .applied type arguments =>
    Text.recordOutline "Parameterized"
      [("raw", type.outline), ("args", Text.listOutline (outlineAll arguments))] false

/-- Several expressions in an outline. -/
def outlineAll : List TypeExpr → List String
  | [] => []
  | expr :: rest => outline expr :: outlineAll rest

end

/-! ## Types of values

A value is described by a type expression in which no parameter stands alone. -/

/-- The type that a value is looked up under; a bare parameter says no more than `object`. -/
def valueType (expr : TypeExpr) : TypeName := expr.raw?.getD .object

/-- The type of the elements, where the expression has one argument that is not a parameter. -/
def elementType? (expr : TypeExpr) : Option TypeName := expr.soleArgument?.bind raw?

end TypeExpr

end Introspect
