import Introspect.Accessor
import Introspect.Text.Case

/-!
# Profiles

The profile of a type is what can be done with its instances: the properties that can be read and
those that can be written, each with its accessor and the type of its values, and the value of a new
instance. `Profile.findName?` finds a property whatever the case of its spelling.
-/

namespace Introspect

variable {V : Type}

/-! ## Tables of properties -/

/-- How a property is reached, and what its values are. -/
structure Property (V : Type) where
  accessor : Accessor V
  type : TypeExpr

/-- Properties by name. The order in which the names were added is kept beside what stands under
them. -/
structure Table (V : Type) where
  names : List String
  /-- What was put under names, newest first; under one name the newest counts. -/
  properties : List (String × Property V)

namespace Table

/-- No property. -/
def empty : Table V := ⟨[], []⟩

/-- The property of a name. -/
def find? (table : Table V) (name : String) : Option (Property V) := table.properties.lookup name

/-- Whether a name has a property. -/
def contains (table : Table V) (name : String) : Bool := (table.find? name).isSome

/-- Puts a property under a name, in the place of the one that was there. A name that had none comes
last. -/
def insert (table : Table V) (name : String) (property : Property V) : Table V :=
  { names := if table.contains name then table.names else table.names ++ [name]
    properties := (name, property) :: table.properties }

/-- The properties with their names, in the order of the names. -/
def entries (table : Table V) : List (String × Property V) :=
  table.names.filterMap fun name => (table.find? name).map (name, ·)

end Table

/-! ## Spellings -/

/-- The names that differ in case only, by their upper-case form; of several the first is kept. -/
structure CaseIndex where
  entries : List (String × String)
  deriving Repr

namespace CaseIndex

/-- Adds a name, unless another one has its upper-case form. -/
def add (index : CaseIndex) (name : String) : CaseIndex :=
  let spelling := Text.upper name
  match index.entries.lookup spelling with
  | some _ => index
  | none => ⟨index.entries ++ [(spelling, name)]⟩

/-- The index of a list of names. -/
def ofNames (names : List String) : CaseIndex := names.foldl add ⟨[]⟩

/-- The name that a spelling stands for. -/
def find? (index : CaseIndex) (spelling : String) : Option String :=
  index.entries.lookup (Text.upper spelling)

end CaseIndex

/-! ## Profiles -/

/-- What can be done with the instances of a type. -/
structure Profile (V : Type) where
  type : TypeName
  readable : Table V
  writable : Table V
  spellings : CaseIndex
  constructor? : Option V

namespace Profile

/-- The profile of a type of which nothing is known. -/
def empty (type : TypeName) : Profile V := ⟨type, .empty, .empty, .ofNames [], none⟩

/-- The property that is read under a name. -/
def readProperty (profile : Profile V) (name : String) : Except PropertyError (Property V) :=
  match profile.readable.find? name with
  | some property => .ok property
  | none => .error (.noAccessor .getter name profile.type)

/-- The property that is written under a name. -/
def writeProperty (profile : Profile V) (name : String) : Except PropertyError (Property V) :=
  match profile.writable.find? name with
  | some property => .ok property
  | none => .error (.noAccessor .setter name profile.type)

/-- The property in one of the two directions. -/
def property (profile : Profile V) : Direction → String → Except PropertyError (Property V)
  | .getter => profile.readProperty
  | .setter => profile.writeProperty

/-- Whether there is a property in one of the two directions. -/
def has (profile : Profile V) : Direction → String → Bool
  | .getter => profile.readable.contains
  | .setter => profile.writable.contains

/-- The name of the property that a spelling stands for, whatever its case. -/
def findName? (profile : Profile V) (spelling : String) : Option String :=
  profile.spellings.find? spelling

/-- A new instance of the type. -/
def newInstance (profile : Profile V) : Except PropertyError V :=
  match profile.constructor? with
  | some value => .ok value
  | none => .error (.noDefaultConstructor profile.type)

/-- The outline of a profile. -/
def outline (profile : Profile V) : String :=
  Text.recordOutline "TypeMetadata"
    [("ty", profile.type.outline),
     ("readable", Text.listOutline (profile.readable.names.map Text.quoted)),
     ("writable", Text.listOutline (profile.writable.names.map Text.quoted)),
     ("default_constructor", toString profile.constructor?.isSome)] true

/-- The outline of a profile as a class to ask questions about. -/
def classOutline (profile : Profile V) : String :=
  Text.recordOutline "MetaClass" [("ty", profile.type.outline)] true

end Profile

end Introspect
