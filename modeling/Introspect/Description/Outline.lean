import Introspect.Description
import Introspect.Text.Outline
import Introspect.Text.Quoted

/-!
# Outlines of descriptions

The one-line summary of a description: all that is declared, with bodies left out.
-/

namespace Introspect

variable {V : Type}

/-- The outline of a type parameter. -/
def Parameter.outline (parameter : Parameter) : String :=
  Text.recordOutline "TypeParam"
    [("name", Text.quoted parameter.name), ("bound", parameter.bound.outline)] false

/-- The outline of a method. -/
def Method.outline (method : Method V) : String :=
  Text.recordOutline "MethodInfo"
    [("name", Text.quoted method.name),
     ("return_type", Text.optionOutline (method.returns?.map TypeExpr.outline)),
     ("params", Text.listOutline (method.parameters.map TypeExpr.outline)),
     ("bridge", toString method.isBridge)] true

/-- The outline of a field. -/
def Field.outline (field : Field V) : String :=
  Text.recordOutline "FieldInfo"
    [("name", Text.quoted field.name),
     ("ty", field.type.outline),
     ("is_static", toString field.isStatic),
     ("is_final", toString field.isFinal)] true

/-- The outline of a description. -/
def Description.outline (description : Description V) : String :=
  Text.recordOutline "TypeInfo"
    [("ty", description.type.outline),
     ("kind", description.kind.word),
     ("collection", toString description.isCollection),
     ("type_params", Text.listOutline (description.parameters.map Parameter.outline)),
     ("superclass", Text.optionOutline (description.superclass?.map TypeExpr.outline)),
     ("interfaces", Text.listOutline (description.interfaces.map TypeExpr.outline)),
     ("methods", Text.listOutline (description.methods.map Method.outline)),
     ("fields", Text.listOutline (description.fields.map Field.outline)),
     ("default_constructor", toString description.constructor?.isSome)] false

end Introspect
