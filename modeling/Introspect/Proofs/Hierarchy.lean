import Introspect.Hierarchy
import Introspect.Catalog
import Mathlib.Logic.Relation

/-!
# Which types references lead to

A walk meets exactly the described types that the references lead to, however often they meet again
or run in circles. So a type is among the strict supertypes of another exactly when one or more
supertype references lead to it, and subtyping is read off a relation.

* `Refers` — a described type refers to another.
* `Extends` — that reference is one to a supertype.
* `Rooted` — neither `object` nor a primitive has supertypes.
* `Layered` — and the supertype references run in no circle.

Main results:

* `mem_walk_iff`: a walk is sound and complete.
* `isAssignable_iff`: subtyping as a relation.
* `Rooted.isAssignable_trans` and `Layered.isAssignable_antisymm`: in a rooted hierarchy subtyping
  is transitive, and in a layered one it is an order.
-/

namespace Introspect.Source

open Relation

variable {V : Type} {source : Source V} {next : Description V → List TypeName}

/-- A described type refers to another, along the references that `next` gives. -/
def Refers (source : Source V) (next : Description V → List TypeName)
    (type other : TypeName) : Prop :=
  ∃ description, source.describe type = some description ∧ other ∈ next description

/-! ## Walks -/

/-- What a walk meets is described and new, and references lead to it from where the walk starts. -/
theorem of_mem_walk {visited pending : List TypeName} {met : Described V}
    (hMet : met ∈ source.walk next visited pending) :
    source.describe met.1 = some met.2 ∧ met.1 ∉ visited ∧
      ∃ start ∈ pending, ReflTransGen (source.Refers next) start met.1 := by
  -- along the walk, whose first type is passed over or met
  fun_induction source.walk next visited pending with
  | case1 visited => cases hMet
  | case2 visited type rest _ ih =>
    obtain ⟨hDescribed, hNew, start, hStart, hLeads⟩ := ih hMet
    exact ⟨hDescribed, hNew, start, List.mem_cons_of_mem _ hStart, hLeads⟩
  | case3 visited type rest _ _ ih =>
    obtain ⟨hDescribed, hNew, start, hStart, hLeads⟩ := ih hMet
    exact ⟨hDescribed, hNew, start, List.mem_cons_of_mem _ hStart, hLeads⟩
  | case4 visited type rest hFresh description hType ih =>
    rcases List.mem_cons.mp hMet with rfl | hLater
    · exact ⟨hType, hFresh, type, List.mem_cons_self, .refl⟩
    · obtain ⟨hDescribed, hNew, start, hStart, hLeads⟩ := ih hLater
      refine ⟨hDescribed, fun hOld => hNew (List.mem_cons_of_mem _ hOld), ?_⟩
      -- the walk went on from what was pending before, or from what this type refers to
      rcases List.mem_append.mp hStart with hRest | hReferred
      · exact ⟨start, List.mem_cons_of_mem _ hRest, hLeads⟩
      · have hStep : source.Refers next type start := ⟨description, hType, hReferred⟩
        exact ⟨type, List.mem_cons_self, hLeads.head hStep⟩

/-- Visited types leave nothing behind: whatever they refer to has been visited, is pending or is
not described. -/
def Closed (source : Source V) (next : Description V → List TypeName)
    (visited pending : List TypeName) : Prop :=
  ∀ type ∈ visited, ∀ other, source.Refers next type other →
    other ∈ visited ∨ other ∈ pending ∨ source.describe other = none

theorem closed_nil (source : Source V) (next : Description V → List TypeName)
    (pending : List TypeName) : source.Closed next [] pending := by
  intro type hNone
  cases hNone

/-- A type that references lead to is itself described, or it is where they end. -/
theorem eq_of_undescribed {type other : TypeName} (hNone : source.describe type = none)
    (hLeads : ReflTransGen (source.Refers next) type other) : other = type := by
  rcases hLeads.cases_head with hSame | ⟨_, ⟨description, hSome, _⟩, _⟩
  · exact hSame.symm
  · rw [hNone] at hSome
    cases hSome

/-- A pending type that has been visited, or is not described, can be passed over. -/
theorem Closed.skip {visited rest : List TypeName} {first : TypeName}
    (hClosed : source.Closed next visited (first :: rest))
    (hDone : first ∈ visited ∨ source.describe first = none) :
    source.Closed next visited rest := by
  intro here hHere there hStep
  rcases hClosed here hHere there hStep with hThere | hThere | hNone
  · exact Or.inl hThere
  · rcases List.mem_cons.mp hThere with rfl | hThere
    · -- the type that is passed over is no longer pending, and need not be
      exact hDone.imp id Or.inr
    · exact Or.inr (Or.inl hThere)
  · exact Or.inr (Or.inr hNone)

/-- A pending type is visited without leaving anything behind if what it refers to becomes pending. -/
theorem Closed.visit {visited rest : List TypeName} {first : TypeName} {held : Description V}
    (hClosed : source.Closed next visited (first :: rest))
    (hFirst : source.describe first = some held) :
    source.Closed next (first :: visited) (rest ++ next held) := by
  intro here hHere there hStep
  rcases List.mem_cons.mp hHere with rfl | hHere
  · -- what the new type refers to has just become pending
    obtain ⟨same, hSame, hThere⟩ := hStep
    rw [hFirst] at hSame
    cases hSame
    exact Or.inr (Or.inl (List.mem_append_right _ hThere))
  · -- what was left to the type is visited with it
    rcases hClosed here hHere there hStep with hThere | hThere | hNone
    · exact Or.inl (List.mem_cons_of_mem _ hThere)
    · rcases List.mem_cons.mp hThere with rfl | hThere
      · exact Or.inl List.mem_cons_self
      · exact Or.inr (Or.inl (List.mem_append_left _ hThere))
    · exact Or.inr (Or.inr hNone)

/-- Where nothing is pending, references lead from visited types to visited ones. -/
theorem Closed.mem_of_leads {visited : List TypeName} {start type : TypeName}
    {description : Description V} (hClosed : source.Closed next visited [])
    (hStart : start ∈ visited) (hLeads : ReflTransGen (source.Refers next) start type)
    (hType : source.describe type = some description) : type ∈ visited := by
  -- along the references from their start, each of which stays among the visited types
  induction hLeads using ReflTransGen.head_induction_on with
  | refl => exact hStart
  | @head here there hStep hRest ih =>
    rcases hClosed here hStart there hStep with hOld | hPending | hNone
    · exact ih hOld
    · cases hPending
    · rw [eq_of_undescribed hNone hRest, hNone] at hType
      cases hType

/-- A walk that has left nothing behind misses nothing that references lead to. -/
theorem mem_walk_of_leads {visited pending : List TypeName} {start type : TypeName}
    {description : Description V} (hClosed : source.Closed next visited pending)
    (hStart : start ∈ visited ∨ start ∈ pending)
    (hLeads : ReflTransGen (source.Refers next) start type)
    (hType : source.describe type = some description) :
    type ∈ visited ∨ (type, description) ∈ source.walk next visited pending := by
  -- along the walk: nothing is left behind at any of its steps, and the start is never forgotten
  fun_induction source.walk next visited pending with
  | case1 visited =>
    -- nothing is pending, so the start has been visited
    have hVisited : start ∈ visited := by simpa using hStart
    exact Or.inl (hClosed.mem_of_leads hVisited hLeads hType)
  | case2 visited first rest hOld ih =>
    -- the first type is passed over, but it counts as a start
    refine ih (hClosed.skip (Or.inl hOld)) (hStart.elim Or.inl fun hPending => ?_)
    rcases List.mem_cons.mp hPending with rfl | hPending
    · exact Or.inl hOld
    · exact Or.inr hPending
  | case3 visited first rest _ hNone ih =>
    have hRest := hClosed.skip (Or.inr hNone)
    rcases hStart with hVisited | hPending
    · exact ih hRest (Or.inl hVisited)
    · rcases List.mem_cons.mp hPending with rfl | hPending
      · -- nothing leads on from a type that is not described
        rw [eq_of_undescribed hNone hLeads, hNone] at hType
        cases hType
      · exact ih hRest (Or.inr hPending)
  | case4 visited first rest _ held hFirst ih =>
    have hGrown : start ∈ first :: visited ∨ start ∈ rest ++ next held := by
      rcases hStart with hVisited | hPending
      · exact Or.inl (List.mem_cons_of_mem _ hVisited)
      · rcases List.mem_cons.mp hPending with rfl | hPending
        · exact Or.inl List.mem_cons_self
        · exact Or.inr (List.mem_append_left _ hPending)
    rcases ih (hClosed.visit hFirst) hGrown with hVisited | hMet
    · rcases List.mem_cons.mp hVisited with rfl | hOld
      · -- the type in question is the one that is met just now
        rw [hFirst] at hType
        cases hType
        exact Or.inr List.mem_cons_self
      · exact Or.inl hOld
    · exact Or.inr (List.mem_cons_of_mem _ hMet)

/-- **A walk meets exactly what references lead to**, each described type with its description. -/
theorem mem_walk_iff {pending : List TypeName} {type : TypeName} {description : Description V} :
    (type, description) ∈ source.walk next [] pending ↔
      source.describe type = some description ∧
        ∃ start ∈ pending, ReflTransGen (source.Refers next) start type := by
  constructor
  · intro hMet
    obtain ⟨hType, -, hLeads⟩ := of_mem_walk hMet
    exact ⟨hType, hLeads⟩
  · rintro ⟨hType, start, hStart, hLeads⟩
    have hClosed := source.closed_nil next pending
    rcases mem_walk_of_leads hClosed (Or.inr hStart) hLeads hType with hNone | hMet
    · cases hNone
    · exact hMet

/-! ## Subtypes -/

/-- A described type names another as its superclass or as one of its interfaces. -/
def Extends (source : Source V) (type other : TypeName) : Prop :=
  source.Refers Description.supertypeNames type other

/-- The superclass comes first among the supertypes. -/
theorem supertypeNames_eq (description : Description V) :
    description.supertypeNames =
      description.superclassName?.toList ++ description.interfaceNames := by
  unfold Description.supertypeNames Description.supertypes Description.superclassName?
    Description.interfaceNames
  rw [List.filterMap_append]
  cases description.superclass? with
  | none => rfl
  | some superclass => cases hRaw : superclass.raw? <;> simp [hRaw]

/-- A reference to a superclass is one to a supertype. -/
theorem extends_of_superclass {type superclass : TypeName} {description : Description V}
    (hSome : source.describe type = some description)
    (hSuperclass : description.superclassName? = some superclass) :
    source.Extends type superclass := by
  refine ⟨description, hSome, ?_⟩
  rw [supertypeNames_eq, hSuperclass]
  exact List.mem_append_left _ (List.mem_singleton_self _)

/-- A reference to an interface is one to a supertype. -/
theorem extends_of_interface {type other : TypeName} {description : Description V}
    (hSome : source.describe type = some description)
    (hOther : other ∈ description.interfaceNames) : source.Extends type other := by
  refine ⟨description, hSome, ?_⟩
  rw [supertypeNames_eq]
  exact List.mem_append_right _ hOther

/-- The classes of a chain are described, and references lead to them. -/
theorem of_mem_superclassChain {visited : List TypeName} {type : TypeName} {owner : Described V}
    (h : owner ∈ source.superclassChain visited type) :
    source.describe owner.1 = some owner.2 ∧ ReflTransGen source.Extends type owner.1 := by
  fun_induction source.superclassChain visited type with
  | case1 => cases h
  | case2 => cases h
  | case3 visited type hGo description hSome ih =>
    rcases List.mem_cons.mp h with rfl | hAbove
    · -- the class itself
      exact ⟨hSome, .refl⟩
    · cases hSuperclass : description.superclassName? with
      | none =>
        rw [hSuperclass] at hAbove
        cases hAbove
      | some superclass =>
        rw [hSuperclass] at hAbove
        -- the rest of the chain, by one reference more
        obtain ⟨hOwner, hLeads⟩ := ih superclass hAbove
        exact ⟨hOwner, hLeads.head (extends_of_superclass hSome hSuperclass)⟩

/-- The types that methods are taken from are described, and references lead to them. -/
theorem of_mem_methodOwners {visited : List TypeName} {type : TypeName} {owner : Described V}
    (h : owner ∈ source.methodOwners visited type) :
    source.describe owner.1 = some owner.2 ∧ ReflTransGen source.Extends type owner.1 := by
  fun_induction source.methodOwners visited type with
  | case1 => cases h
  | case2 => cases h
  | case3 visited type hGo description hSome interfaces ih =>
    rcases List.mem_append.mp h with hHere | hAbove
    · rcases List.mem_cons.mp hHere with rfl | hInterface
      · exact ⟨hSome, .refl⟩
      · -- an interface that some references to interfaces lead to
        obtain ⟨hOwner, -, start, hStart, hLeads⟩ := of_mem_walk hInterface
        have hExtends : ReflTransGen source.Extends start owner.1 :=
          hLeads.lift id fun _ _ ⟨_, hFrom, hTo⟩ => extends_of_interface hFrom hTo
        exact ⟨hOwner, hExtends.head (extends_of_interface hSome hStart)⟩
    · cases hSuperclass : description.superclassName? with
      | none =>
        rw [hSuperclass] at hAbove
        cases hAbove
      | some superclass =>
        rw [hSuperclass] at hAbove
        -- what is visited from the superclass on
        obtain ⟨hOwner, hLeads⟩ := ih superclass hAbove
        exact ⟨hOwner, hLeads.head (extends_of_superclass hSome hSuperclass)⟩

/-- One or more references lead to the strict supertypes, and to nothing else. -/
theorem mem_strictSupertypes_iff {type other : TypeName} :
    other ∈ source.strictSupertypes type ↔ TransGen source.Extends type other := by
  unfold strictSupertypes
  rw [List.mem_flatMap]
  constructor
  · rintro ⟨⟨middle, description⟩, hMet, hOther⟩
    obtain ⟨hMiddle, start, hStart, hLeads⟩ := mem_walk_iff.mp hMet
    obtain rfl : start = type := by simpa using hStart
    -- the last reference is the one to the type in question
    exact TransGen.tail' hLeads ⟨description, hMiddle, hOther⟩
  · intro hLeads
    obtain ⟨middle, hLeads, description, hMiddle, hOther⟩ := TransGen.tail'_iff.mp hLeads
    exact ⟨(middle, description), mem_walk_iff.mpr ⟨hMiddle, type, by simp, hLeads⟩, hOther⟩

/-- **Subtyping as a relation**: the same type, `object` for whatever is no primitive, or a type that
supertype references lead to. -/
theorem isAssignable_iff {target sub : TypeName} :
    source.isAssignable target sub = true ↔
      target = sub ∨ target = .object ∧ source.isPrimitive sub = false ∨
        target ≠ .object ∧ TransGen source.Extends sub target := by
  unfold isAssignable
  -- the three tests are made one after the other
  by_cases hSame : target = sub
  · simp [hSame]
  · by_cases hObject : target = .object
    · simp [hObject]
    · simp [hSame, hObject, mem_strictSupertypes_iff]

/-! ## Rooted hierarchies -/

/-- Neither `object` nor a primitive has supertypes. -/
structure Rooted (source : Source V) : Prop where
  rooted : ∀ {type other}, source.Extends type other →
    type ≠ .object ∧ source.isPrimitive type = false

namespace Rooted

variable {a b c : TypeName}

/-- What has a supertype is neither `object` nor a primitive. -/
theorem of_leads (h : source.Rooted) (hLeads : TransGen source.Extends a b) :
    a ≠ .object ∧ source.isPrimitive a = false := by
  obtain ⟨middle, hStep, -⟩ := TransGen.head'_iff.mp hLeads
  exact h.rooted hStep

theorem isAssignable_trans (h : source.Rooted) (hAB : source.isAssignable b a = true)
    (hBC : source.isAssignable c b = true) : source.isAssignable c a = true := by
  rw [isAssignable_iff] at hAB hBC ⊢
  rcases hAB with rfl | ⟨rfl, hPrimitive⟩ | ⟨-, hLeads⟩
  · exact hBC
  · -- nothing but itself lies above `object`
    rcases hBC with rfl | ⟨rfl, -⟩ | ⟨-, hLeads⟩
    · exact Or.inr (Or.inl ⟨rfl, hPrimitive⟩)
    · exact Or.inr (Or.inl ⟨rfl, hPrimitive⟩)
    · exact absurd rfl (h.of_leads hLeads).1
  · have hPrimitive := (h.of_leads hLeads).2
    by_cases hObject : c = .object
    · exact Or.inr (Or.inl ⟨hObject, hPrimitive⟩)
    · rcases hBC with rfl | ⟨hRoot, -⟩ | ⟨-, hLeads'⟩
      · exact Or.inr (Or.inr ⟨hObject, hLeads⟩)
      · exact absurd hRoot hObject
      · exact Or.inr (Or.inr ⟨hObject, hLeads.trans hLeads'⟩)

end Rooted

/-! ## Layered hierarchies -/

/-- The supertype references run in no circle, and neither `object` nor a primitive has any. -/
structure Layered (source : Source V) : Prop where
  acyclic : ∀ type, ¬TransGen source.Extends type type
  rooted : ∀ {type other}, source.Extends type other →
    type ≠ .object ∧ source.isPrimitive type = false

namespace Layered

/-- Where every reference leads to a type of a higher rank, there are no circles. -/
theorem of_rank (rank : TypeName → Nat)
    (hRank : ∀ {type other}, source.Extends type other → rank type < rank other)
    (hRooted : ∀ {type other}, source.Extends type other →
      type ≠ .object ∧ source.isPrimitive type = false) : source.Layered := by
  -- along the references, the rank rises
  have hRises : ∀ {type other}, TransGen source.Extends type other → rank type < rank other := by
    intro type other hLeads
    induction hLeads with
    | single hStep => exact hRank hStep
    | tail _ hStep ih => exact Nat.lt_trans ih (hRank hStep)
  exact ⟨fun type hCircle => Nat.lt_irrefl _ (hRises hCircle), hRooted⟩

variable {a b c : TypeName}

theorem isRooted (h : source.Layered) : source.Rooted := ⟨h.rooted⟩

theorem isAssignable_trans (h : source.Layered) (hAB : source.isAssignable b a = true)
    (hBC : source.isAssignable c b = true) : source.isAssignable c a = true :=
  h.isRooted.isAssignable_trans hAB hBC

/-- Of two types that can stand for each other there is one only. -/
theorem isAssignable_antisymm (h : source.Layered) (hAB : source.isAssignable b a = true)
    (hBA : source.isAssignable a b = true) : a = b := by
  rw [isAssignable_iff] at hAB hBA
  rcases hAB with rfl | ⟨rfl, -⟩ | ⟨hObject, hLeads⟩
  · rfl
  · -- the first type is the root
    rcases hBA with rfl | ⟨rfl, -⟩ | ⟨-, hLeads⟩
    · rfl
    · rfl
    · exact absurd rfl (h.isRooted.of_leads hLeads).1
  · -- references lead from the first type to the second
    rcases hBA with rfl | ⟨rfl, -⟩ | ⟨-, hLeads'⟩
    · rfl
    · exact absurd rfl (h.isRooted.of_leads hLeads).1
    · -- and back again, which would be a circle
      exact absurd (hLeads.trans hLeads') (h.acyclic a)

end Layered

/-! ## Hierarchies of catalogs -/

/-- A reference in a catalog stands in one of its descriptions. -/
theorem exists_mem_of_extends {catalog : Catalog V} {type other : TypeName}
    (h : catalog.toSource.Extends type other) :
    ∃ description ∈ catalog.descriptions, description.type = type ∧
      other ∈ description.supertypeNames := by
  obtain ⟨description, hFound, hOther⟩ := h
  have hType : description.type = type := by simpa using List.find?_some hFound
  exact ⟨description, List.mem_of_find?_eq_some hFound, hType, hOther⟩

end Introspect.Source
