import Introspect.Catalog.Submission
import Introspect.Record

/-!
# The stock of records

A small shop with its customers and offices, and a few records that try out what a declaration can
say: renamed, skipped, read-only and optional fields, names that are reserved or collide, and a
record that is described by hand.
-/

namespace Introspect.Stock

/-! ## Shapes -/

/-- A truth value. -/
def bool : Shape := .primitive "bool"

/-- A whole number of 64 bits with a sign. -/
def i64 : Shape := .primitive "i64"

/-- The shape of a record that is described under its identifier. -/
def recordShape (ident : String) : Shape := .record ident ⟨ident⟩

/-- The shape of a tag, which is described under a name of its own. -/
def tagShape : Shape := .record "Tag" ⟨"shop.Tag"⟩

/-! ## Declarations -/

/-- A field that is described under its identifier. -/
def field (ident : String) (shape : Shape) : RecordField :=
  { ident, name := ident, shape, isOptional := false, isReadOnly := false, isSkipped := false }

/-- A field that may be absent. -/
def optionalField (ident : String) (shape : Shape) : RecordField :=
  { field ident shape with isOptional := true }

/-- A field that is described under another name. -/
def renamedField (ident name : String) (shape : Shape) : RecordField :=
  { field ident shape with name }

/-- A record that is described under its identifier. -/
def record (ident : String) (hasDefault : Bool) (fields : List RecordField) : Record :=
  { ident, type := ⟨ident⟩, fields, hasDefault }

/-- The address of a person or an office. -/
def address : Record := record "Address" true
  [field "city" .text, optionalField "zip" .text]

/-- A person. -/
def person : Record := record "Person" false
  [field "name" .text, field "age" (.primitive "u32"),
    optionalField "address" (recordShape "Address"), field "tags" (.list .text)]

/-- A record that cannot be written. -/
def locked : Record := record "Locked" false
  [{ field "id" i64 with isReadOnly := true }]

/-- A record whose part cannot be made anew. -/
def account : Record := record "Account" false
  [optionalField "owner" (recordShape "Locked")]

/-- A customer. -/
def customer : Record := record "Customer" true
  [field "user_name" .text]

/-- An order of a customer. -/
def order : Record := record "Order" false
  [field "id" i64, optionalField "customer" (recordShape "Customer"), field "lines" (.list .text)]

/-- A tag, described under a name of its own. -/
def tag : Record :=
  { ident := "Tag", type := ⟨"shop.Tag"⟩, fields := [field "label" .text], hasDefault := true }

/-- A user, with a field that is not described. -/
def user : Record := record "User" false
  [{ field "id" i64 with isReadOnly := true },
    renamedField "user_name" "userName" .text,
    { field "scratch" (.list (.primitive "u8")) with isSkipped := true },
    field "tags" (.list tagShape),
    optionalField "nickname" .text]

/-- A tree. -/
def node : Record := record "Node" true
  [field "value" i64, field "children" (.list (recordShape "Node"))]

/-- An office. -/
def office : Record := record "Office" true
  [optionalField "floor" (.primitive "i32"), optionalField "address" (recordShape "Address"),
    optionalField "manager" (recordShape "Person")]

/-- A company with two offices, one of which it always has. -/
def company : Record := record "Company" true
  [optionalField "hq" (recordShape "Office"), field "main" (recordShape "Office"),
    field "active" bool]

/-- Fields whose names are reserved, collide, hold a dot or are empty. -/
def odd : Record := record "Odd" true
  [field "type" .text, renamedField "klass" "class" .text, renamedField "money" "$money" i64,
    renamedField "first" "dup" i64, renamedField "second" "dup" .text,
    renamedField "dotted" "a.b" i64, renamedField "unnamed" "" i64,
    field "grid" (.list (.list (.primitive "u8"))),
    optionalField "maybe" (.list (.optional (.primitive "i32")))]

/-- The record that is described by hand. -/
def manual : Record := record "Manual" false
  [field "count" i64, field "tag" tagShape]

/-- A record that holds some that are described by hand. -/
def holder : Record := record "Holder" false
  [optionalField "manual" (recordShape "Manual"), field "list" (.list (recordShape "Manual"))]

/-- One field of every primitive type. -/
def prims : Record := record "Prims" false <|
  (["a", "b", "c", "d", "e", "f", "g", "h", "i", "j", "k", "l", "m", "n", "o", "p"].zip
    ["bool", "char", "u8", "u16", "u32", "u64", "u128", "usize", "i8", "i16", "i32", "i64", "i128",
      "isize", "f32", "f64"]).map fun (ident, type) => field ident (.primitive type)

/-- All records; each holds only values of those before it. -/
def records : List Record :=
  [address, person, locked, account, customer, order, tag, user, node, office, company, odd, manual,
    holder, prims]

/-- The value that each record starts with. -/
def initials : List (String × Value) := Record.initials records

/-- The record of an identifier. -/
def find? (ident : String) : Option Record := records.find? (·.ident == ident)

/-! ## The description by hand -/

/-- The value of a new instance of the record that is described by hand. -/
def newManual : Value :=
  .record "Manual" ⟨"Manual"⟩
    [("count", some (.number "i64" (-1))),
      ("tag", some (.record "Tag" ⟨"shop.Tag"⟩ [("label", some (.text ""))]))]

/-- A count that methods read and write, and a tag that is a field to be read only. -/
def manualDescription : Description Value :=
  { (Description.plain ⟨"Manual"⟩ .concrete : Description Value) with
    methods :=
      [{ name := "getCount", returns? := some i64.typeExpr, parameters := [], isBridge := false
         body? := some (.read (manual.readField (field "count" i64))) },
        { name := "setCount", returns? := none, parameters := [i64.typeExpr], isBridge := false
          body? := some (.write (manual.writeField (field "count" i64))) }]
    fields :=
      [{ name := "tag", type := tagShape.typeExpr, isStatic := false, isFinal := false
         reader? := some (manual.readField (field "tag" tagShape)), writer? := none }]
    constructor? := some newManual }

/-! ## Registration -/

/-- A record that can be registered: by its declaration, or by hand with nothing to depend on. -/
def registrable (record : Record) : Registrable Value :=
  if record.ident = manual.ident then ⟨manualDescription, []⟩
  else record.registrable ((initials.lookup record.ident).getD (record.initial []))

/-- The records as a family. -/
def family : Family Value := records.map registrable

/-- Registers a record and all that it refers to. -/
def register (catalog : Catalog Value) (record : Record) : Catalog Value :=
  catalog.register family record.type

/-- Registers all that a shape refers to. -/
def registerShape (catalog : Catalog Value) (shape : Shape) : Catalog Value :=
  catalog.registerAll family shape.references

/-- The type that marks a catalog in which registration has been run. -/
def registrationFlag : TypeName := Catalog.registrationFlag

/-- What is registered without being asked for: the flag, and two records. -/
def submitted : List Submission := [.flag, .type order.type, .type tag.type]

/-- Runs all submitted registrations, unless that was done before; gives what it has to report and
the catalog afterwards. -/
def autoRegister (catalog : Catalog Value) : List Event × Catalog Value :=
  catalog.autoRegister family submitted

end Introspect.Stock
