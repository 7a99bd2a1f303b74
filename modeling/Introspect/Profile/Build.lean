import Introspect.Conflict
import Introspect.Profile
import Introspect.Event

/-!
# Building profiles

The profile of a type follows from the descriptions of a source. Methods come first: each property
that methods claim gets the one that wins. Fields of the type and its superclasses fill the gaps, the
nearest one first. Reserved names never become properties.

* `Source.profile` is the profile, or the first conflict that cannot be settled.
* `Source.buildNotices` is what is worth a notice on the way.
-/

namespace Introspect.Source

variable {V : Type}

/-! ## Methods -/

/-- Adds a property, unless its name is reserved. -/
def addUnreserved (table : Table V) (name : String) (property : Property V) : Table V :=
  bif PropertyName.isReserved name then table else table.insert name property

/-- The property that a method backs, its value declared as `declared`. -/
def methodProperty (source : Source V) (type : TypeName) (candidate : Candidate V)
    (declared : TypeExpr) : Property V :=
  ⟨.ofMethod candidate.declaring candidate.method,
    source.memberType declared candidate.declaring type⟩

/-- The claims of candidate methods to be read. -/
def getterClaims (source : Source V) (candidates : List (Candidate V)) : List (Claim V) :=
  Claim.gather source.getterProperty? candidates

/-- The claims of candidate methods to be written. -/
def setterClaims (candidates : List (Candidate V)) : List (Claim V) :=
  Claim.gather setterProperty? candidates

/-- Settles one claim to be read. -/
def addGetter (source : Source V) (type : TypeName) (table : Table V) (claim : Claim V) :
    Except PropertyError (Table V) :=
  match source.chooseGetter claim with
  | .error clash =>
    .error (.ambiguousGetter claim.property clash.declaring clash.first clash.second)
  | .ok winner =>
    match winner.method.returns? with
    -- what is claimed to be read returns something, so that this does not occur
    | none => .ok table
    | some declared =>
      .ok (addUnreserved table claim.property (source.methodProperty type winner declared))

/-- The type that the getter of a property returns, if there is a getter. -/
def getterType? (getters : Table V) (property : String) : Option TypeName :=
  (getters.find? property).map (·.type.valueType)

/-- Settles one claim to be written. -/
def addSetter (source : Source V) (type : TypeName) (getters : Table V) (table : Table V)
    (claim : Claim V) : Except PropertyError (Table V) :=
  match source.chooseSetter (getterType? getters claim.property) claim with
  | .error clash =>
    .error (.ambiguousSetter claim.property clash.declaring clash.first clash.second)
  | .ok winner =>
    match winner.method.parameters with
    -- what is claimed to be written takes something, so that this does not occur
    | [] => .ok table
    | declared :: _ =>
      .ok (addUnreserved table claim.property (source.methodProperty type winner declared))

/-- The properties that methods read. -/
def methodGetters (source : Source V) (type : TypeName) : Except PropertyError (Table V) :=
  (source.getterClaims (source.candidates type)).foldlM (source.addGetter type) .empty

/-- The properties that methods write, given those that methods read. -/
def methodSetters (source : Source V) (type : TypeName) (getters : Table V) :
    Except PropertyError (Table V) :=
  (setterClaims (source.candidates type)).foldlM (source.addSetter type getters) .empty

/-! ## Fields -/

/-- The fields of a type and its superclasses, each with the type that declares it. -/
def chainFields (source : Source V) (type : TypeName) : List (TypeName × Field V) :=
  (source.superclassChain [] type).flatMap fun owner => owner.2.fields.map (owner.1, ·)

/-- The property that a field backs. -/
def fieldProperty (source : Source V) (type : TypeName) (declared : TypeName × Field V) :
    Property V :=
  ⟨.ofField declared.1 declared.2, source.memberType declared.2.type declared.1 type⟩

/-- Adds a field, unless a property has its name already. -/
def addField (source : Source V) (type : TypeName) (table : Table V)
    (declared : TypeName × Field V) : Table V :=
  if table.contains declared.2.name then table
  else addUnreserved table declared.2.name (source.fieldProperty type declared)

/-- Adds those of the fields whose names no property has yet. -/
def addFields (source : Source V) (type : TypeName) (table : Table V)
    (fields : List (TypeName × Field V)) : Table V :=
  fields.foldl (source.addField type) table

/-- Whether a field can be written as far as its description goes: it is no constant, and it is not
read without being written. -/
def isWritableField (field : Field V) : Bool := !field.isConstant && !field.isReadOnly

/-! ## The profile -/

/-- The profile of a type; a type without a description has no properties. -/
def profile (source : Source V) (type : TypeName) : Except PropertyError (Profile V) :=
  match source.describe type with
  | none => .ok (.empty type)
  | some description => do
    let getters ← source.methodGetters type
    let setters ← source.methodSetters type getters
    -- Fields come last, so that a method wins over a field of the same name.
    let fields := source.chainFields type
    let readable := source.addFields type getters fields
    let writable := source.addFields type setters (fields.filter (isWritableField ·.2))
    return {
      type, readable, writable
      spellings := .ofNames (readable.names ++ writable.names)
      constructor? := description.constructor? }

/-! ## Notices -/

/-- The notices of settling the claims to be read: the first clash ends the work. -/
def getterNotices (source : Source V) (claims : List (Claim V)) : List Event :=
  (claims.findSome? fun claim =>
    match source.chooseGetter claim with
    | .ok _ => none
    | .error clash => some (Event.ambiguousGetters claim.property clash.declaring)).toList

/-- The notices of settling the claims to be written: every clash on the way counts, and the first
that is not settled ends the work. -/
def setterNotices (source : Source V) (getters : Table V) : List (Claim V) → List Event
  | [] => []
  | claim :: rest =>
    let wanted := getterType? getters claim.property
    let notice := (source.setterClash? wanted claim).map fun clash =>
      Event.ambiguousSetters claim.property clash.declaring
    notice.toList ++
      match source.chooseSetter wanted claim with
      | .ok _ => source.setterNotices getters rest
      | .error _ => []

/-- What is worth a notice while the profile of a type is built. -/
def buildNotices (source : Source V) (type : TypeName) : List Event :=
  match source.describe type with
  | none => [.noDescription type]
  | some _ =>
    let candidates := source.candidates type
    match source.methodGetters type with
    | .error _ => source.getterNotices (source.getterClaims candidates)
    | .ok getters => source.setterNotices getters (setterClaims candidates)

end Introspect.Source
