import Introspect.Profile.Build
import Mathlib.Data.List.Forall2

/-!
# Profiles that are alike

Two builds may go through the same members and still see other types in them. Their tables are then
*alike*: the same names stand in the same order, and what stands under a name is reached through the
same accessor, with types that are related in a way that is left open here. Builds end alike when both
fail with the same error, or both end with profiles that are alike.

Main results:

* `Table.Alike.addUnreserved` and `Table.Alike.addFields`: the steps of a build keep tables alike.
* `SameOutcome.foldlM`: steps that end alike make runs that end alike.
* `Profile.Alike.eq`: where the types are equal, so are the profiles.
-/

namespace Introspect

variable {V : Type} {same : TypeExpr → TypeExpr → Prop}

/-! ## Outcomes -/

/-- Both fail with the same error, or both give results that are related. -/
inductive SameOutcome {ε α β : Type} (related : α → β → Prop) : Except ε α → Except ε β → Prop where
  | error (cause : ε) : SameOutcome related (.error cause) (.error cause)
  | ok {result : α} {other : β} (h : related result other) :
      SameOutcome related (.ok result) (.ok other)

namespace SameOutcome

variable {ε α β : Type} {related : α → β → Prop}

/-- What follows two such outcomes ends alike, if it does for related results. -/
theorem bind {γ δ : Type} {related' : γ → δ → Prop} {outcome : Except ε α} {other : Except ε β}
    {next : α → Except ε γ} {next' : β → Except ε δ} (h : SameOutcome related outcome other)
    (hNext : ∀ a b, related a b → SameOutcome related' (next a) (next' b)) :
    SameOutcome related' (outcome >>= next) (other >>= next') := by
  cases h with
  | error cause => exact .error cause
  | ok hRelated => exact hNext _ _ hRelated

/-- A run over items and one over their images end alike, if every step does. -/
theorem foldlM {ι κ : Type} {f : ι → κ} {step : α → ι → Except ε α} {step' : β → κ → Except ε β} :
    ∀ {items : List ι} {a : α} {b : β}, related a b →
      (∀ item ∈ items, ∀ a b, related a b →
        SameOutcome related (step a item) (step' b (f item))) →
      SameOutcome related (items.foldlM step a) ((items.map f).foldlM step' b)
  | [], _, _, h, _ => .ok h
  | item :: rest, a, b, h, hStep => by
    rw [List.map_cons, List.foldlM_cons, List.foldlM_cons]
    refine (hStep item List.mem_cons_self a b h).bind fun a' b' h' => ?_
    exact foldlM h' fun other hOther => hStep other (List.mem_cons_of_mem _ hOther)

/-- Outcomes that are the same up to equality of results are equal. -/
theorem eq_of_eq {outcome other : Except ε α} (h : SameOutcome Eq outcome other) :
    outcome = other := by
  cases h with
  | error cause => rfl
  | ok hSame => rw [hSame]

/-- A weaker relation holds of the results as well. -/
theorem mono {related' : α → β → Prop} {outcome : Except ε α} {other : Except ε β}
    (h : SameOutcome related outcome other) (hWeaker : ∀ a b, related a b → related' a b) :
    SameOutcome related' outcome other := by
  cases h with
  | error cause => exact .error cause
  | ok hRelated => exact .ok (hWeaker _ _ hRelated)

end SameOutcome

/-! ## Tables -/

/-- Both are reached in one way, and their types are related. -/
structure Property.Alike (same : TypeExpr → TypeExpr → Prop) (property other : Property V) :
    Prop where
  accessor_eq : other.accessor = property.accessor
  type_same : same property.type other.type

/-- With equal types, properties that are alike are equal. -/
theorem Property.Alike.eq {property other : Property V} (h : property.Alike Eq other) :
    property = other := by
  obtain ⟨accessor, type⟩ := property
  obtain ⟨accessor', type'⟩ := other
  obtain ⟨hAccessor, hType⟩ := h
  dsimp only at hAccessor hType
  rw [hAccessor, hType]

namespace Table

/-- The same names are listed, with properties that are alike. -/
structure Alike (same : TypeExpr → TypeExpr → Prop) (table other : Table V) : Prop where
  names_eq : other.names = table.names
  properties_alike : List.Forall₂
    (fun pair pair' => pair.1 = pair'.1 ∧ pair.2.Alike same pair'.2)
    table.properties other.properties

variable {table other : Table V}

/-- Under one name either both have nothing, or both have properties that are alike. -/
theorem Alike.find? (h : table.Alike same other) (name : String) :
    Option.Rel (Property.Alike same) (table.find? name) (other.find? name) := by
  have hPairs := h.properties_alike
  unfold Table.find?
  -- both tables are searched in step, since their names are the same one by one
  generalize table.properties = pairs, other.properties = pairs' at hPairs
  induction hPairs with
  | nil => exact .none
  | @cons pair pair' _ _ hPair _ ih =>
    obtain ⟨key, property⟩ := pair
    obtain ⟨key', property'⟩ := pair'
    obtain ⟨rfl, hAlike⟩ := hPair
    rw [List.lookup_cons, List.lookup_cons]
    cases name == key with
    | true => exact .some hAlike
    | false => exact ih

/-- Tables that are alike hold the same names. -/
theorem Alike.contains_eq (h : table.Alike same other) (name : String) :
    other.contains name = table.contains name := by
  have hFound := h.find? name
  unfold contains
  generalize table.find? name = found, other.find? name = found' at hFound
  cases hFound with
  | none => rfl
  | some => rfl

theorem alike_empty : (empty : Table V).Alike same empty := ⟨rfl, .nil⟩

/-- Insertion keeps tables alike. -/
theorem Alike.insert (h : table.Alike same other) (name : String) {property property' : Property V}
    (hProperty : property.Alike same property') :
    (table.insert name property).Alike same (other.insert name property') := by
  constructor
  -- a name is listed once, and both tables know it or neither does
  · show (if other.contains name then other.names else other.names ++ [name]) =
      if table.contains name then table.names else table.names ++ [name]
    rw [h.contains_eq, h.names_eq]
  · exact .cons ⟨rfl, hProperty⟩ h.properties_alike

/-- What is added to tables that are alike is added to both, or is reserved and added to neither. -/
theorem Alike.addUnreserved (h : table.Alike same other) (name : String)
    {property property' : Property V} (hProperty : property.Alike same property') :
    (Source.addUnreserved table name property).Alike same
      (Source.addUnreserved other name property') := by
  unfold Source.addUnreserved
  cases PropertyName.isReserved name with
  | true => exact h
  | false => exact h.insert name hProperty

/-- **Fields of the same names keep tables alike**, if what they back is alike. -/
theorem Alike.addFields {source target : Source V} {type : TypeName}
    {f : TypeName × Field V → TypeName × Field V} {fields : List (TypeName × Field V)}
    (h : table.Alike same other)
    (hName : ∀ declared ∈ fields, (f declared).2.name = declared.2.name)
    (hField : ∀ declared ∈ fields,
      (source.fieldProperty type declared).Alike same (target.fieldProperty type (f declared))) :
    (source.addFields type table fields).Alike same
      (target.addFields type other (fields.map f)) := by
  unfold Source.addFields
  induction fields generalizing table other with
  | nil => exact h
  | cons declared rest ih =>
    rw [List.map_cons, List.foldl_cons, List.foldl_cons]
    refine ih ?_ (fun later hLater => hName later (List.mem_cons_of_mem _ hLater))
      (fun later hLater => hField later (List.mem_cons_of_mem _ hLater))
    -- the name is held on both sides or on neither
    unfold Source.addField
    rw [hName declared List.mem_cons_self, h.contains_eq]
    split
    · exact h
    · exact h.addUnreserved _ (hField declared List.mem_cons_self)

/-- With equal types, tables that are alike are equal. -/
theorem Alike.eq (h : table.Alike Eq other) : table = other := by
  obtain ⟨names, properties⟩ := table
  obtain ⟨names', properties'⟩ := other
  obtain ⟨hNames, hPairs⟩ := h
  dsimp only at hNames hPairs
  have hSame : properties = properties' := by
    induction hPairs with
    | nil => rfl
    | @cons pair pair' _ _ hPair _ ih => rw [Prod.ext hPair.1 hPair.2.eq, ih]
  rw [hNames, hSame]

end Table

/-! ## Profiles -/

namespace Profile

/-- The profiles are of one type and list the same properties in the same order. -/
structure Alike (same : TypeExpr → TypeExpr → Prop) (profile other : Profile V) : Prop where
  type_eq : other.type = profile.type
  readable_alike : profile.readable.Alike same other.readable
  writable_alike : profile.writable.Alike same other.writable
  spellings_eq : other.spellings = profile.spellings
  constructor?_eq : other.constructor? = profile.constructor?

theorem alike_empty (type : TypeName) : (empty type : Profile V).Alike same (empty type) :=
  ⟨rfl, Table.alike_empty, Table.alike_empty, rfl, rfl⟩

/-- With equal types, profiles that are alike are equal. -/
theorem Alike.eq {profile other : Profile V} (h : profile.Alike Eq other) : profile = other := by
  obtain ⟨type, readable, writable, spellings, constructor?⟩ := profile
  obtain ⟨type', readable', writable', spellings', constructor'?⟩ := other
  obtain ⟨hType, hReadable, hWritable, hSpellings, hConstructor⟩ := h
  dsimp only at hType hSpellings hConstructor
  have hReadable' : readable = readable' := hReadable.eq
  have hWritable' : writable = writable' := hWritable.eq
  rw [hType, hSpellings, hConstructor, hReadable', hWritable']

end Profile

end Introspect
