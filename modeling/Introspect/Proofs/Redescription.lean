import Introspect.Proofs.Hierarchy.Walk
import Introspect.Proofs.MemberType.Ascents

/-!
# Sources of one hierarchy

Two sources may describe types differently and still agree on what extends what. All walks then meet
the same types in the same order, and subtyping is the same, whatever else has been changed. Where
parameters and references are the same as well, members have the same types.

* `Redescribes` — the descriptions of one source are those of another, with changes that leave the
  hierarchy as it is, for the types of a set that no supertype reference leaves.
* `Rescopes` — the changes are about members only.

Main results:

* `Redescribes.walk_eq`, `Redescribes.superclassChain_eq` and `Redescribes.methodOwners_eq`: walks
  meet the same types.
* `Redescribes.isAssignable_eq`: subtyping is the same.
* `Redescribes.seekAscents_eq`: a search for a declaring type goes the same way.
* `Rescopes.erase_eq` and `Rescopes.memberType_eq`: members have the same types.
-/

namespace Introspect.Source

variable {V : Type} {source target : Source V} {within : TypeName → Prop}
  {change : TypeName → Description V → Description V} {rewrite : TypeName → TypeExpr → TypeExpr}

/-! ## One hierarchy -/

/-- The descriptions of `target` are those of `source` with changes, for the types of a set that no
supertype reference leaves. Such a reference may be rewritten, but it names the same type. -/
structure Redescribes (source target : Source V) (within : TypeName → Prop)
    (change : TypeName → Description V → Description V)
    (rewrite : TypeName → TypeExpr → TypeExpr) : Prop where
  describe_eq : ∀ {type}, within type →
    target.describe type = (source.describe type).map (change type)
  closed : ∀ {type other}, within type → source.Extends type other → within other
  kind_eq : ∀ type description, (change type description).kind = description.kind
  superclass?_eq : ∀ type description,
    (change type description).superclass? = description.superclass?.map (rewrite type)
  interfaces_eq : ∀ type description,
    (change type description).interfaces = description.interfaces.map (rewrite type)
  raw?_eq : ∀ type reference, (rewrite type reference).raw? = reference.raw?

/-- A described type, with the changed description. -/
def redescribe (change : TypeName → Description V → Description V) (met : Described V) :
    Described V :=
  (met.1, change met.1 met.2)

/-- The types that are met are the same. -/
theorem map_fst_redescribe (met : List (Described V)) :
    (met.map (redescribe change)).map Prod.fst = met.map Prod.fst := by
  rw [List.map_map]
  rfl

namespace Redescribes

/-- The supertypes are rewritten, one by one. -/
theorem supertypes_eq (h : source.Redescribes target within change rewrite) (type : TypeName)
    (description : Description V) :
    (change type description).supertypes = description.supertypes.map (rewrite type) := by
  unfold Description.supertypes
  rw [h.superclass?_eq, h.interfaces_eq, List.map_append]
  cases description.superclass? with
  | none => rfl
  | some superclass => rfl

/-- Rewritten references name the same types. -/
theorem filterMap_raw? (h : source.Redescribes target within change rewrite) (type : TypeName)
    (references : List TypeExpr) :
    (references.map (rewrite type)).filterMap TypeExpr.raw? =
      references.filterMap TypeExpr.raw? := by
  rw [List.filterMap_map]
  exact congrArg (List.filterMap · references) (funext fun reference => h.raw?_eq type reference)

/-- The supertypes are of the same names. -/
theorem supertypeNames_change (h : source.Redescribes target within change rewrite)
    (type : TypeName) (description : Description V) :
    (change type description).supertypeNames = description.supertypeNames := by
  rw [Description.supertypeNames, h.supertypes_eq, h.filterMap_raw?]
  rfl

/-- The interfaces are of the same names. -/
theorem interfaceNames_eq (h : source.Redescribes target within change rewrite) (type : TypeName)
    (description : Description V) :
    (change type description).interfaceNames = description.interfaceNames := by
  rw [Description.interfaceNames, h.interfaces_eq, h.filterMap_raw?]
  rfl

/-- The superclass is of the same name. -/
theorem superclassName?_eq (h : source.Redescribes target within change rewrite) (type : TypeName)
    (description : Description V) :
    (change type description).superclassName? = description.superclassName? := by
  unfold Description.superclassName?
  rw [h.superclass?_eq]
  cases description.superclass? with
  | none => rfl
  | some superclass => exact h.raw?_eq type superclass

theorem describe_none (h : source.Redescribes target within change rewrite) {type : TypeName}
    (hWithin : within type) (hNone : source.describe type = none) : target.describe type = none := by
  rw [h.describe_eq hWithin, hNone]
  rfl

/-- What is described in one source is described in the other, with the change. -/
theorem describe_some (h : source.Redescribes target within change rewrite) {type : TypeName}
    {description : Description V} (hWithin : within type)
    (hSome : source.describe type = some description) :
    target.describe type = some (change type description) := by
  rw [h.describe_eq hWithin, hSome]
  rfl

/-- References to supertypes do not leave the set. -/
theorem within_of_reflTransGen (h : source.Redescribes target within change rewrite)
    {type other : TypeName} (hType : within type)
    (hLeads : Relation.ReflTransGen source.Extends type other) : within other := by
  -- reference by reference, none of which leaves the set
  induction hLeads with
  | refl => exact hType
  | tail _ hStep ih => exact h.closed ih hStep

/-! ## Walks -/

/-- **A walk meets the same types.** -/
theorem walk_eq (h : source.Redescribes target within change rewrite)
    {next : Description V → List TypeName}
    (hSame : ∀ type description, next (change type description) = next description)
    (hWithin : ∀ {type other}, within type → source.Refers next type other → within other)
    {visited pending : List TypeName} (hPending : ∀ type ∈ pending, within type) :
    target.walk next visited pending =
      (source.walk next visited pending).map (redescribe change) := by
  -- along the walk, which passes over the same types in both sources
  fun_induction source.walk next visited pending with
  | case1 visited => rw [walk, List.map_nil]
  | case2 visited type rest hOld ih =>
    rw [walk_of_mem hOld, ih fun other hOther => hPending other (List.mem_cons_of_mem _ hOther)]
  | case3 visited type rest _ hNone ih =>
    rw [walk_of_none (h.describe_none (hPending type List.mem_cons_self) hNone),
      ih fun other hOther => hPending other (List.mem_cons_of_mem _ hOther)]
  | case4 visited type rest hNew description hSome ih =>
    have hType : within type := hPending type List.mem_cons_self
    -- what the type refers to is in the set, like what was pending
    have hRest : ∀ other ∈ rest ++ next description, within other := by
      intro other hOther
      rcases List.mem_append.mp hOther with hOld | hReferred
      · exact hPending other (List.mem_cons_of_mem _ hOld)
      · exact hWithin hType ⟨description, hSome, hReferred⟩
    rw [walk_of_some hNew (h.describe_some hType hSome), hSame, ih hRest, List.map_cons]
    rfl

/-- The interfaces of a type are met in the same order. -/
theorem interfacesOf_eq (h : source.Redescribes target within change rewrite) {type : TypeName}
    {description : Description V} (hType : within type)
    (hSome : source.describe type = some description) (visited : List TypeName) :
    target.interfacesOf visited type (change type description) =
      (source.interfacesOf visited type description).map (redescribe change) := by
  unfold interfacesOf
  -- references to interfaces are references to supertypes, so they do not leave the set
  rw [h.interfaceNames_eq]
  have hWithin : ∀ {type other}, within type → source.Refers Description.interfaceNames type other →
      within other :=
    fun hFrom ⟨_, hSome, hOther⟩ => h.closed hFrom (extends_of_interface hSome hOther)
  exact h.walk_eq h.interfaceNames_eq hWithin fun other hOther => hWithin hType ⟨_, hSome, hOther⟩

/-- **The chain of superclasses is the same.** -/
theorem superclassChain_eq (h : source.Redescribes target within change rewrite) {visited : List TypeName}
    {type : TypeName} (hType : within type) :
    target.superclassChain visited type =
      (source.superclassChain visited type).map (redescribe change) := by
  -- along the chain, which ends at the same class
  fun_induction source.superclassChain visited type with
  | case1 visited type hStop => rw [superclassChain_of_stop hStop, List.map_nil]
  | case2 visited type hGo hNone =>
    rw [superclassChain_of_none (h.describe_none hType hNone), List.map_nil]
  | case3 visited type hGo description hSome ih =>
    rw [superclassChain_of_some hGo (h.describe_some hType hSome), h.superclassName?_eq,
      List.map_cons]
    cases hSuperclass : description.superclassName? with
    | none => rfl
    | some superclass =>
      show _ :: target.superclassChain _ superclass = _ :: List.map _ (source.superclassChain _ _)
      -- the superclass is in the set
      rw [ih superclass (h.closed hType (extends_of_superclass hSome hSuperclass))]
      rfl

/-- **Methods are looked for in the same types.** -/
theorem methodOwners_eq (h : source.Redescribes target within change rewrite) {visited : List TypeName}
    {type : TypeName} (hType : within type) :
    target.methodOwners visited type =
      (source.methodOwners visited type).map (redescribe change) := by
  fun_induction source.methodOwners visited type with
  | case1 visited type hStop => rw [methodOwners_of_stop hStop, List.map_nil]
  | case2 visited type hGo hNone =>
    rw [methodOwners_of_none (h.describe_none hType hNone), List.map_nil]
  | case3 visited type hGo description hSome interfaces ih =>
    rw [methodOwners_of_some hGo (h.describe_some hType hSome), h.superclassName?_eq,
      h.interfacesOf_eq hType hSome, map_fst_redescribe, List.map_append, List.map_cons]
    -- the class and its interfaces are the same, and the rest is so by induction
    congr 1
    cases hSuperclass : description.superclassName? with
    | none => rfl
    | some superclass => exact ih superclass (h.closed hType (extends_of_superclass hSome hSuperclass))

/-! ## Subtypes -/

/-- The strict supertypes are the same. -/
theorem strictSupertypes_eq (h : source.Redescribes target within change rewrite) {type : TypeName}
    (hType : within type) : target.strictSupertypes type = source.strictSupertypes type := by
  unfold strictSupertypes
  rw [h.walk_eq h.supertypeNames_change h.closed (by simpa using hType), List.flatMap_map]
  congr 1
  funext met
  exact h.supertypeNames_change met.1 met.2

/-- The same types are primitives. -/
theorem isPrimitive_eq (h : source.Redescribes target within change rewrite) {type : TypeName}
    (hType : within type) : target.isPrimitive type = source.isPrimitive type := by
  unfold isPrimitive
  rw [h.describe_eq hType]
  cases source.describe type with
  | none => rfl
  | some description =>
    show ((change type description).kind == .primitive) = (description.kind == .primitive)
    rw [h.kind_eq]

/-- **Subtyping is the same.** -/
theorem isAssignable_eq (h : source.Redescribes target within change rewrite) {sub : TypeName}
    (hSub : within sub) (other : TypeName) :
    target.isAssignable other sub = source.isAssignable other sub := by
  unfold isAssignable
  -- subtyping asks for nothing else
  rw [h.isPrimitive_eq hSub, h.strictSupertypes_eq hSub]

/-! ## Searches -/

/-- A search is led the same way, over the rewritten references. -/
theorem seekAscents_eq (h : source.Redescribes target within change rewrite)
    (declaring : TypeName) : ∀ (left : Nat) {current : TypeName}, within current →
      target.seekAscents declaring left current =
        (source.seekAscents declaring left current).map (List.map fun ascent =>
          { ascent with reference := rewrite ascent.sub ascent.reference })
  | 0, current, _ => by
    rw [seekAscents, seekAscents]
    split
    · rfl
    · rfl
  | left + 1, current, hCurrent => by
    rw [seekAscents, seekAscents]
    split
    · rfl
    · cases hSome : source.describe current with
      | none =>
        rw [h.describe_none hCurrent hSome]
        rfl
      | some description =>
        rw [h.describe_some hCurrent hSome]
        -- the references are tried in the same order
        simp only [h.supertypes_eq, List.findSome?_map, List.map_findSome?]
        refine findSome?_congr fun reference hReference => ?_
        simp only [Function.comp, h.raw?_eq]
        cases hRaw : reference.raw? with
        | none => rfl
        | some type =>
          have hType : within type :=
            h.closed hCurrent ⟨description, hSome, List.mem_filterMap.mpr ⟨_, hReference, hRaw⟩⟩
          -- what a reference names is searched in the same way
          simp only [h.seekAscents_eq declaring left hType, Option.map_map]
          rfl

/-- References lead nowhere else. -/
theorem within_of_ascends (h : source.Redescribes target within change rewrite)
    {type goal : TypeName} {ascents : List Ascent} (hLeads : source.Ascends type ascents goal)
    (hType : within type) : ∀ ascent ∈ ascents, within ascent.super := by
  -- along the way, one reference after the other
  induction hLeads with
  | here type => simp
  | step hSub hReference hRaw _ ih =>
    have hSuper := h.closed hType ⟨_, hSub, List.mem_filterMap.mpr ⟨_, hReference, hRaw⟩⟩
    intro ascent hAscent
    rcases List.mem_cons.mp hAscent with rfl | hLater
    · exact hSuper
    · exact ih hSuper ascent hLater

end Redescribes

/-! ## Other members -/

/-- The descriptions of `target` differ from those of `source` in members only. -/
structure Rescopes (source target : Source V) (within : TypeName → Prop)
    (change : TypeName → Description V → Description V) : Prop
    extends source.Redescribes target within change fun _ reference => reference where
  parameters_eq : ∀ type description, (change type description).parameters = description.parameters

namespace Rescopes

/-- Parameters have the same bounds. -/
theorem parameterBound_eq (h : source.Rescopes target within change) (name : String)
    {scopes : List TypeName} (hScopes : ∀ scope ∈ scopes, within scope) :
    target.parameterBound name scopes = source.parameterBound name scopes := by
  -- the scopes are asked in the same order
  refine congrArg (·.getD TypeName.object) (findSome?_congr fun scope hScope => ?_)
  rw [h.describe_eq (hScopes scope hScope)]
  cases source.describe scope with
  | none => rfl
  | some description => simp only [Option.map_some, Option.bind_some, h.parameters_eq]

/-- **Members are erased to the same types.** -/
theorem erase_eq (h : source.Rescopes target within change) {declaring : TypeName}
    (hDeclaring : within declaring) (declared : TypeExpr) :
    target.erase declared declaring = source.erase declared declaring := by
  cases declared with
  | named type => rfl
  | applied type arguments => rfl
  | parameter name => exact h.parameterBound_eq name (by simpa using hDeclaring)

/-- A reference binds the same. -/
theorem referenceBindings_eq (h : source.Rescopes target within change) {type : TypeName}
    (hType : within type) (outer : Bindings) (reference : TypeExpr) :
    target.referenceBindings outer reference type =
      source.referenceBindings outer reference type := by
  unfold referenceBindings
  rw [h.describe_eq hType]
  cases source.describe type with
  | none => rfl
  | some description => simp only [Option.map_some, h.parameters_eq]

/-- References bind the same, one after the other. -/
theorem bindingsAlong_eq (h : source.Rescopes target within change) (outer : Bindings)
    {ascents : List Ascent} (hAscents : ∀ ascent ∈ ascents, within ascent.super) :
    target.bindingsAlong outer ascents = source.bindingsAlong outer ascents := by
  unfold bindingsAlong
  induction ascents generalizing outer with
  | nil => rfl
  | cons ascent rest ih =>
    rw [List.foldl_cons, List.foldl_cons,
      h.referenceBindings_eq (hAscents ascent List.mem_cons_self)]
    exact ih _ fun other hOther => hAscents other (List.mem_cons_of_mem _ hOther)

/-- The same is bound between two types. -/
theorem bindingsBetween_eq (h : source.Rescopes target within change) {sub : TypeName}
    (hSub : within sub) (declaring : TypeName) :
    target.bindingsBetween sub declaring = source.bindingsBetween sub declaring := by
  unfold bindingsBetween
  rw [seekBindings_eq, seekBindings_eq, h.seekAscents_eq declaring _ hSub]
  cases hFound : source.seekAscents declaring referenceLimit sub with
  | none => rfl
  | some ascents =>
    -- the search stays in the set, so all references on the way bind the same
    have hWithin := h.within_of_ascends (ascends_of_seekAscents hFound) hSub
    simp only [Option.map_some, List.map_id', h.bindingsAlong_eq _ hWithin]

/-- **Members have the same types.** -/
theorem memberType_eq (h : source.Rescopes target within change) {declaring sub : TypeName}
    (hDeclaring : within declaring) (hSub : within sub) (declared : TypeExpr) :
    target.memberType declared declaring sub = source.memberType declared declaring sub := by
  unfold memberType
  rw [h.bindingsBetween_eq hSub]
  -- a parameter that is left alone is looked up in its scopes
  split
  · rw [h.parameterBound_eq _ (by simp [hDeclaring, hSub])]
  · rfl

end Rescopes

end Introspect.Source
