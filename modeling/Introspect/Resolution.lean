import Introspect.Path
import Introspect.Question

/-!
# Resolving paths

Questions about a path, asked of the profile of the type that it starts from. Each segment but the
last must be readable: it leads to the profile of the type of its values, or of the elements of its
values if the segment is indexed and the values are a collection. The last segment is what the
question is about.

* `Profile.hasAt`, `Profile.typeAt` and `Profile.accessorAt` ask for the property at the end of a
  path, in one direction.
* `Profile.findPath` finds the names that a path spells, whatever their case.
* `Profile.resolveAt` gathers the answers.
-/

namespace Introspect.Profile

variable {V : Type}

/-! ## Steps along a path -/

/-- The type that a segment leads to: that of the elements for an index into a collection whose
elements are known, otherwise that of the values themselves. -/
def targetType (indexed : Bool) (type : TypeExpr) : Inquiry V TypeName :=
  if indexed then do
    if ← Inquiry.isCollection type.valueType then
      return type.elementType?.getD type.valueType
    else
      return type.valueType
  else
    return type.valueType

/-- The profile that a readable property leads to. -/
def child? (profile : Profile V) (name : String) (indexed : Bool) :
    Inquiry V (Option (Profile V)) :=
  match profile.readable.find? name with
  | none => return none
  | some property => do
    let type ← targetType indexed property.type
    return some (← Inquiry.profile type)

/-- The profile that a readable property leads to; without one there is nothing to ask. -/
def child (profile : Profile V) (name : String) (indexed : Bool) : Inquiry V (Profile V) := do
  match ← profile.child? name indexed with
  | some child => return child
  | none => .fail (.noAccessor .getter name profile.type)

/-! ## The property at the end -/

/-- Whether the last of some segments is a property in one direction. -/
def hasAlong (direction : Direction) (profile : Profile V) (segment : Segment) :
    List Segment → Inquiry V Bool
  | [] => return profile.has direction segment.name
  | next :: rest => do
    match ← profile.child? segment.name segment.isIndexed with
    | some child => child.hasAlong direction next rest
    | none => return false

/-- Whether the last segment of a path is a property in one direction. -/
def hasAt (profile : Profile V) (direction : Direction) (path : Path) : Inquiry V Bool :=
  profile.hasAlong direction path.head path.tail

/-- The type of the values of the last of some segments. -/
def typeAlong (direction : Direction) (profile : Profile V) (segment : Segment) :
    List Segment → Inquiry V TypeName
  | [] => do
    let property ← Inquiry.ofExcept (profile.property direction segment.name)
    targetType segment.isIndexed property.type
  | next :: rest => do
    let child ← profile.child segment.name segment.isIndexed
    child.typeAlong direction next rest

/-- The type of the values at the end of a path; that of the elements if the end is an index. -/
def typeAt (profile : Profile V) (direction : Direction) (path : Path) : Inquiry V TypeName :=
  profile.typeAlong direction path.head path.tail

/-- The accessor of the last of some segments. -/
def accessorAlong (direction : Direction) (profile : Profile V) (segment : Segment) :
    List Segment → Inquiry V (Accessor V)
  | [] => do
    let property ← Inquiry.ofExcept (profile.property direction segment.name)
    return property.accessor
  | next :: rest => do
    let child ← profile.child segment.name segment.isIndexed
    child.accessorAlong direction next rest

/-- The accessor at the end of a path. -/
def accessorAt (profile : Profile V) (direction : Direction) (path : Path) :
    Inquiry V (Accessor V) :=
  profile.accessorAlong direction path.head path.tail

/-- The profile of the type of a property's values, whatever they are values of. -/
def valueProfile (profile : Profile V) (name : String) : Inquiry V (Profile V) := do
  let property ← Inquiry.ofExcept (profile.readProperty name)
  Inquiry.profile property.type.valueType

/-! ## Names, whatever their case -/

/-- The name that is looked up for a segment. -/
def lookupName (camelCase : Bool) (name : String) : String :=
  if camelCase then String.ofList (name.toList.filter (· != '_')) else name

/-- The names that some segments spell; indexes stay with their segments. -/
def findAlong (camelCase : Bool) (profile : Profile V) (segment : Segment)
    (rest : List Segment) : Inquiry V (Option (List Segment)) :=
  match profile.findName? (lookupName camelCase segment.name) with
  | none => return none
  | some name =>
    let found := Segment.ofNameIndex name segment.index?
    match rest with
    | [] => return some [found]
    | next :: rest => do
      match ← profile.child? name segment.isIndexed with
      | none => return none
      | some child =>
        match ← child.findAlong camelCase next rest with
        | none => return none
        | some others => return some (found :: others)

/-- The path of the properties that a path spells, whatever the case of its letters; with camel case
also whatever its underscores. -/
def findPath (profile : Profile V) (camelCase : Bool) (path : Path) : Inquiry V (Option Path) := do
  -- what is found has a name for each segment, and so a first one
  match ← profile.findAlong camelCase path.head path.tail with
  | some (head :: tail) => return some ⟨head, tail⟩
  | _ => return none

/-! ## All at once -/

/-- What a path denotes. -/
structure Resolution where
  readable : Bool
  writable : Bool
  valueType? : Option TypeName
  canonical? : Option Path
  deriving DecidableEq, Repr

/-- The type of the values at a path that can be read, or else written. -/
def valueTypeAt (profile : Profile V) (readable writable : Bool) (path : Path) :
    Inquiry V (Option TypeName) :=
  if readable then some <$> profile.typeAt .getter path
  else if writable then some <$> profile.typeAt .setter path
  else pure none

/-- All that can be asked about a path. The type is that of reading, or of writing where the path
cannot be read. -/
def resolveAt (profile : Profile V) (camelCase : Bool) (path : Path) : Inquiry V Resolution := do
  let readable ← profile.hasAt .getter path
  let writable ← profile.hasAt .setter path
  let valueType? ← profile.valueTypeAt readable writable path
  let canonical? ← profile.findPath camelCase path
  return { readable, writable, valueType?, canonical? }

end Introspect.Profile
