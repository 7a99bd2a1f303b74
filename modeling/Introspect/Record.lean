import Introspect.Catalog
import Introspect.Value

/-!
# Records

A record type has fixed fields, each of one shape and perhaps optional. Its description follows from
its declaration: every field that is not left out becomes a described field that can be read, and
written unless it is read-only.
-/

namespace Introspect

/-- A field of a record. -/
structure RecordField where
  ident : String
  /-- The name that the field is described under. -/
  name : String
  /-- The shape of the value; for an optional field that of a value that is there. -/
  shape : Shape
  isOptional : Bool
  isReadOnly : Bool
  /-- Whether the field is left out of the description. -/
  isSkipped : Bool
  deriving Repr

/-- The declaration of a record type. -/
structure Record where
  ident : String
  type : TypeName
  fields : List RecordField
  /-- Whether there is a default constructor. -/
  hasDefault : Bool
  deriving Repr

namespace Record

/-- The shape of the instances. -/
def shape (record : Record) : Shape := .record record.ident record.type

/-- The fields that are described. -/
def describedFields (record : Record) : List RecordField := record.fields.filter (!·.isSkipped)

/-! ## Bodies -/

/-- The type that a field's failures name. -/
def fieldType (field : RecordField) : TypeName := field.shape.typeExpr.valueType

/-- The fields of an instance: of a record with this identifier and name, and with just the fields
that are declared. -/
def instanceFields? (record : Record) : Value → Option (List (String × Option Value))
  | .record ident type fields =>
    if ident = record.ident ∧ type = record.type ∧
        fields.map Prod.fst = record.fields.map RecordField.ident then some fields
    else none
  | _ => none

/-- Reads a field of a record. -/
def readField (record : Record) (field : RecordField) : Reader Value := fun instance_ =>
  match record.instanceFields? instance_ with
  | some fields => .ok (namedValue fields field.ident)
  | none => .error (.instanceMismatch record.type)

/-- What a field stores for a written value. -/
def takeField (field : RecordField) (value : Option Value) : Except AccessError (Option Value) :=
  if field.isOptional then field.shape.takeOptional (fieldType field) value
  else (field.shape.take (fieldType field) value).map some

/-- Writes a field of a record. -/
def writeField (record : Record) (field : RecordField) : Writer Value := fun instance_ value =>
  match record.instanceFields? instance_ with
  | none => (instance_, .error (.instanceMismatch record.type))
  | some fields =>
    match takeField field value with
    | .ok stored =>
      (.record record.ident record.type (replaceNamed fields field.ident stored), .ok ())
    | .error cause => (instance_, .error cause)

/-! ## Descriptions -/

/-- The described field. -/
def describeField (record : Record) (field : RecordField) : Field Value :=
  { name := field.name, type := field.shape.typeExpr, isStatic := false, isFinal := false
    reader? := some (record.readField field)
    writer? := if field.isReadOnly then none else some (record.writeField field) }

/-- The description of a record, given the value of a new instance. -/
def describe (record : Record) (newInstance : Value) : Description Value :=
  { Description.plain record.type .concrete with
    fields := record.describedFields.map record.describeField
    constructor? := if record.hasDefault then some newInstance else none }

/-- A record as a type that can be registered, along with those of its described fields. -/
def registrable (record : Record) (newInstance : Value) : Registrable Value :=
  { description := record.describe newInstance
    shapes := record.describedFields.map RecordField.shape }

/-! ## New instances -/

/-- The value that a field of a shape starts with, given those of records that were declared before;
an optional field starts absent. -/
def initialValue (records : List (String × Value)) : Shape → Option Value
  | .primitive "bool" => some (.bool false)
  | .primitive "char" => some (.char '\x00')
  | .primitive name => some (.number name 0)
  | .text => some (.text "")
  | .list element => some (.list element [])
  | .optional _ => none
  | .record ident _ => records.lookup ident
  | .slots => some (.slots [])

/-- A record in which every field has the value that it starts with. -/
def initial (records : List (String × Value)) (record : Record) : Value :=
  .record record.ident record.type <| record.fields.map fun field =>
    (field.ident, if field.isOptional then none else initialValue records field.shape)

/-- The initial values of records, each of which may hold those declared before it. -/
def initials (records : List Record) : List (String × Value) :=
  records.foldl (fun done record => done ++ [(record.ident, record.initial done)]) []

end Record

end Introspect
