import Introspect.Source
import Introspect.Value

/-!
# Catalogs

A catalog is an editable table of descriptions, keyed by the types that they describe. It is the
source of descriptions that everything else is built from.

* `Catalog.insert` replaces, `Catalog.insertIfNew` keeps what is there.
* `Catalog.register` adds a type of a family and all that it depends on, directly or not.
-/

namespace Introspect

variable {V : Type}

/-- A table of descriptions, in the order in which types were first inserted. -/
structure Catalog (V : Type) where
  descriptions : List (Description V)

namespace Catalog

/-- A catalog that describes nothing. -/
def empty : Catalog V := ⟨[]⟩

/-- The description of a type. -/
def get? (catalog : Catalog V) (type : TypeName) : Option (Description V) :=
  catalog.descriptions.find? (·.type == type)

/-- Whether a type is described. -/
def contains (catalog : Catalog V) (type : TypeName) : Bool := (catalog.get? type).isSome

/-- The described types. -/
def names (catalog : Catalog V) : List TypeName := catalog.descriptions.map Description.type

/-- How many types are described. -/
def size (catalog : Catalog V) : Nat := catalog.descriptions.length

/-- Puts a description in the place of the one of the same type, or at the end. -/
def insert (catalog : Catalog V) (description : Description V) : Catalog V :=
  if catalog.contains description.type then
    ⟨catalog.descriptions.map fun held =>
      if held.type = description.type then description else held⟩
  else ⟨catalog.descriptions ++ [description]⟩

/-- Inserts a description of a type that has none yet. -/
def insertIfNew (catalog : Catalog V) (description : Description V) : Catalog V :=
  if catalog.contains description.type then catalog else catalog.insert description

/-- The names of the primitive types. -/
def primitiveNames : List String :=
  ["bool", "char", "u8", "u16", "u32", "u64", "u128", "usize", "i8", "i16", "i32", "i64", "i128",
    "isize", "f32", "f64"]

/-- The types that are always there: the primitives, the texts, and the growable sequence. -/
def standard : Catalog V :=
  ⟨primitiveNames.map (fun name => Description.plain ⟨name⟩ .primitive) ++
    [Description.plain ⟨"String"⟩ .concrete,
      { Description.plain .vec .concrete with
        parameters := [⟨"T", .object⟩]
        isCollection := true }]⟩

/-- A described type is among the names. -/
theorem mem_names_of_get? {catalog : Catalog V} {type : TypeName}
    (described : (catalog.get? type).isSome) : type ∈ catalog.names := by
  obtain ⟨description, found⟩ := Option.isSome_iff_exists.mp described
  have same : description.type = type := by
    have := List.find?_some found
    simpa using this
  exact List.mem_map.mpr ⟨description, List.mem_of_find?_eq_some found, same⟩

/-- The catalog as a source of descriptions. -/
def toSource (catalog : Catalog V) : Source V :=
  { describe := catalog.get?, known := catalog.names, mem_known := fun _ => mem_names_of_get? }

end Catalog

/-! ## Families of types -/

/-- A type that can be registered: its description, and the shapes of the values whose types are
registered along with it, in order. -/
structure Registrable (V : Type) where
  description : Description V
  shapes : List Shape

/-- The types that are registered along with one: those that its shapes refer to, however deep in
lists and in values that may be absent. -/
def Registrable.dependencies (member : Registrable V) : List TypeName :=
  member.shapes.flatMap Shape.references

/-- Types that can be registered and may refer to each other. -/
abbrev Family (V : Type) := List (Registrable V)

namespace Family

/-- The member of a family that describes a type. -/
def find? (family : Family V) (type : TypeName) : Option (Registrable V) :=
  List.find? (·.description.type == type) family

/-- How many members of a family are not in a catalog yet. -/
def missing (family : Family V) (catalog : Catalog V) : Nat :=
  List.countP (fun member => !catalog.contains member.description.type) family

end Family

namespace Catalog

/-- Inserting a description makes no other type unknown. -/
theorem contains_insert (catalog : Catalog V) (description : Description V) (type : TypeName) :
    (catalog.insert description).contains type =
      (catalog.contains type || description.type == type) := by
  unfold contains get? insert
  split
  · rename_i held
    -- the description takes the place of another one of the same type
    simp only [List.find?_map]
    by_cases same : description.type = type
    · subst same
      simp only [contains, get?] at held
      simp only [beq_self_eq_true, Bool.or_true, Option.isSome_map, List.find?_isSome,
        Function.comp]
      obtain ⟨old, mem, eq⟩ := List.find?_isSome.mp held
      refine ⟨old, mem, ?_⟩
      simp only [beq_iff_eq] at eq
      simp [eq]
    · have unequal : (description.type == type) = false := by simpa using same
      rw [unequal, Bool.or_false, Option.isSome_map]
      congr 1
      congr 1
      funext held
      by_cases eq : held.type = description.type
      · simp [eq]
      · simp [eq]
  -- the description is a new one
  · simp only [List.find?_append, Option.isSome_or, List.find?_singleton]
    by_cases same : description.type = type <;> simp [same]

/-- The inserted description is found under its type, and nothing else has changed. -/
theorem get?_insert (catalog : Catalog V) (description : Description V) (type : TypeName) :
    (catalog.insert description).get? type =
      if description.type = type then some description else catalog.get? type := by
  unfold insert
  split
  · rename_i held
    -- the description takes the place of another one of the same type
    have sameTypes : ((·.type == type) ∘ fun other : Description V =>
        if other.type = description.type then description else other) = (·.type == type) := by
      funext other
      by_cases same : other.type = description.type <;> simp [same]
    unfold get?
    rw [List.find?_map, sameTypes]
    split
    · rename_i same
      obtain ⟨old, found⟩ := Option.isSome_iff_exists.mp held
      have oldType : old.type = description.type := by simpa using List.find?_some found
      rw [get?, same] at found
      rw [found, Option.map_some, if_pos oldType]
    · rename_i unequal
      cases found : catalog.descriptions.find? (·.type == type) with
      | none => rfl
      | some other =>
        have otherType : other.type = type := by simpa using List.find?_some found
        rw [Option.map_some, if_neg fun same => unequal (same.symm.trans otherType)]
  · rename_i new
    unfold get?
    rw [List.find?_append, List.find?_singleton]
    by_cases same : description.type = type
    · -- nothing was found under the type before
      have absent : catalog.descriptions.find? (·.type == type) = none := by
        rw [← same]
        simpa [contains, get?] using new
      simp [absent, same]
    · simp [same]

/-- Registering a missing member of a family leaves fewer of them missing. -/
theorem missing_insert_lt {family : Family V} {catalog : Catalog V} {type : TypeName}
    {member : Registrable V} (absent : ¬catalog.contains type = true)
    (found : family.find? type = some member) :
    family.missing (catalog.insert member.description) < family.missing catalog := by
  have same : member.description.type = type := by simpa using List.find?_some found
  -- the member counts as missing before, and not afterwards
  refine Source.countP_lt_countP (a := member) ?_ (List.mem_of_find?_eq_some found) ?_ ?_
  · intro other
    simp only [contains_insert, Bool.not_eq_true', Bool.or_eq_false_iff]
    exact And.left
  · simpa [same] using absent
  · simp [contains_insert]

/-- Registers the pending types, each followed by what it refers to. A type that the catalog has
already is passed over, together with what it refers to. -/
def registerAll (family : Family V) (catalog : Catalog V) (pending : List TypeName) : Catalog V :=
  match pending with
  | [] => catalog
  | type :: rest =>
    if _ : catalog.contains type then registerAll family catalog rest
    else
      match _ : family.find? type with
      | none => registerAll family catalog rest
      | some member =>
        -- what the member refers to comes before the rest of what is pending
        registerAll family (catalog.insert member.description) (member.dependencies ++ rest)
termination_by (family.missing catalog, pending.length)
decreasing_by
  · exact Prod.Lex.right _ (Nat.lt_succ_self _)
  · exact Prod.Lex.right _ (Nat.lt_succ_self _)
  · exact Prod.Lex.left _ _ (missing_insert_lt ‹_› ‹_›)

/-- Registers a type of a family and all that it refers to. -/
def register (family : Family V) (catalog : Catalog V) (type : TypeName) : Catalog V :=
  registerAll family catalog [type]

end Catalog

end Introspect
