import Introspect.Proofs.Candidate
import Introspect.Proofs.Hierarchy.Walk
import Introspect.Proofs.MemberType.Composition

/-!
# How deep type arguments are found

The search for the bindings of a declaring type gives up after `referenceLimit` references, so that
it ends on circles. Nothing else is lost: a declaring type is found exactly when some way up to it is
not longer, and what is found binds all its parameters if the references supply them. On a hierarchy
without circles every way up is as short as the number of described types, so it takes more of them
than the limit for anything to be missed.

Main results:

* `bindingsBetween_isSome_iff`: when a declaring type is found.
* `length_le_of_acyclic`: without circles, ways up are no longer than there are types.
* `arguments_found`: what is found, and what is bound.
* `arguments_lost_in_tower`: a member that is declared 66 references above a type loses its argument.
-/

namespace Introspect.Source

open Relation

variable {V : Type} {source : Source V} {sub super goal type : TypeName} {path : List Ascent}

/-! ## Ways up and references -/

/-- A way up follows supertype references. -/
theorem Ascends.leads (h : source.Ascends sub path goal) :
    ReflTransGen source.Extends sub goal := by
  -- reference by reference, from the bottom
  induction h with
  | here type => exact .refl
  | @step sub super goal description reference ascents hSub hReference hRaw _ ih =>
    exact ih.head ⟨description, hSub, List.mem_filterMap.mpr ⟨reference, hReference, hRaw⟩⟩

/-- Where supertype references lead, there is a way up. -/
theorem exists_ascends (hLeads : ReflTransGen source.Extends sub goal) :
    ∃ path, source.Ascends sub path goal := by
  -- from the top down, one reference at a time
  induction hLeads using ReflTransGen.head_induction_on with
  | refl => exact ⟨[], .here goal⟩
  | head hStep _ ih =>
    obtain ⟨description, hSub, hSuper⟩ := hStep
    obtain ⟨reference, hReference, hRaw⟩ := List.mem_filterMap.mp hSuper
    obtain ⟨path, hPath⟩ := ih
    exact ⟨_, .step hSub hReference hRaw hPath⟩

/-- What stands on a way up stands in the descriptions. -/
theorem Ascends.of_mem {ascent : Ascent} (h : source.Ascends sub path goal)
    (hAscent : ascent ∈ path) :
    ReflTransGen source.Extends sub ascent.sub ∧
      ∃ description, source.describe ascent.sub = some description ∧
        ascent.reference ∈ description.supertypes ∧ ascent.reference.raw? = some ascent.super := by
  induction h with
  | here type => cases hAscent
  | @step sub super goal description reference ascents hSub hReference hRaw _ ih =>
    rcases List.mem_cons.mp hAscent with rfl | hAbove
    · exact ⟨.refl, description, hSub, hReference, hRaw⟩
    · -- a reference farther up stands where the first one leads
      obtain ⟨hLeads, hStands⟩ := ih hAbove
      exact ⟨hLeads.head ⟨description, hSub, List.mem_filterMap.mpr ⟨reference, hReference, hRaw⟩⟩,
        hStands⟩

/-! ## What is found -/

/-- **A declaring type is found** exactly when some way up to it is not too long. -/
theorem bindingsBetween_isSome_iff :
    (source.bindingsBetween sub goal).isSome = true ↔
      ∃ path, source.Ascends sub path goal ∧ path.length ≤ referenceLimit := by
  unfold bindingsBetween
  rw [seekBindings_eq, Option.isSome_map]
  constructor
  · intro hFound
    -- whatever is found is a way, and no longer than the search may go
    obtain ⟨path, hPath⟩ := Option.isSome_iff_exists.mp hFound
    exact ⟨path, ascends_of_seekAscents hPath, length_le_of_seekAscents hPath⟩
  · rintro ⟨path, hPath, hShort⟩
    -- a way that is short enough makes the search find some way
    obtain ⟨found, hFound⟩ := exists_seekAscents hPath hShort
    rw [hFound]
    rfl

/-- **Without circles, a way up is no longer than there are described types**: it leaves each of them
at most once. -/
theorem length_le_of_acyclic (hAcyclic : ∀ type, ¬TransGen source.Extends type type)
    (h : source.Ascends sub path goal) : path.length ≤ source.known.length := by
  -- a type that is left a second time would lead to itself
  have hOnce : (path.map Ascent.sub).Nodup := by
    induction h with
    | here type => exact List.nodup_nil
    | @step sub super goal description reference ascents hSub hReference hRaw hRest ih =>
      rw [List.map_cons, List.nodup_cons]
      refine ⟨fun hAgain => ?_, ih⟩
      obtain ⟨ascent, hAscent, hSame⟩ := List.mem_map.mp hAgain
      have hStep : source.Extends sub super :=
        ⟨description, hSub, List.mem_filterMap.mpr ⟨reference, hReference, hRaw⟩⟩
      have hBack := (hRest.of_mem hAscent).1
      rw [hSame] at hBack
      exact hAcyclic sub (TransGen.head' hStep hBack)
  -- all types that are left are described
  have hLength := length_le_known hOnce fun type hType => by
    obtain ⟨ascent, hAscent, rfl⟩ := List.mem_map.mp hType
    obtain ⟨-, description, hSome, -⟩ := h.of_mem hAscent
    rw [hSome]
    rfl
  rwa [List.length_map] at hLength

/-! ## What is bound -/

/-- A reference supplies an argument for every parameter of the type that it names. -/
def Supplies (source : Source V) (ascent : Ascent) : Prop :=
  (source.parametersOf ascent.super).length ≤ ascent.reference.arguments.length

/-- The last reference of a way up binds what the declaring type asks for. -/
theorem isSome_get?_along (outer : Bindings) (h : source.Ascends sub path goal)
    (hNonempty : path ≠ []) (hSupplies : ∀ ascent ∈ path, source.Supplies ascent) {name : String}
    (hName : name ∈ source.parametersOf goal) :
    ((source.bindingsAlong outer path).get? name).isSome = true := by
  induction h generalizing outer with
  | here type => exact absurd rfl hNonempty
  | @step sub super goal description reference ascents hSub hReference hRaw hRest ih =>
    obtain ⟨hHere, hAbove⟩ := List.forall_mem_cons.mp hSupplies
    cases hRest with
    | here =>
      -- the last reference binds the name by itself
      obtain ⟨argument, -, hArgument⟩ := exists_argument hHere hName
      show ((source.referenceBindings outer reference super).get? name).isSome = true
      rw [get?_referenceBindings, hArgument]
      rfl
    | step hSuper hMember hNext hFurther =>
      exact ih (source.referenceBindings outer reference super) (by simp) hAbove hName

/-- A parameter of a declaring type that is not found gives way to its bound. -/
theorem memberType_of_none (hNone : source.bindingsBetween sub goal = none) (name : String) :
    source.memberType (.parameter name) goal sub =
      .named (source.parameterBound name [goal, sub]) := by
  unfold memberType
  rw [hNone, Option.getD_none, TypeExpr.substitute_empty]

/-- **Type arguments are found up to a depth of `referenceLimit` references.** A declaring type is
found exactly when some way up to it is not longer, whatever circles there are. So on a hierarchy
without circles and with no more described types than that, every type is found that references lead
to, and with it every type that declares a candidate. What is found binds every parameter of a
declaring type above, if the references on the ways to it supply all arguments. -/
theorem arguments_found (source : Source V) (sub declaring : TypeName) :
    ((source.bindingsBetween sub declaring).isSome = true ↔
      ∃ path, source.Ascends sub path declaring ∧ path.length ≤ referenceLimit) ∧
    ((∀ type, ¬TransGen source.Extends type type) → source.known.length ≤ referenceLimit →
      (ReflTransGen source.Extends sub declaring →
        (source.bindingsBetween sub declaring).isSome = true) ∧
      ∀ candidate ∈ source.candidates sub,
        (source.bindingsBetween sub candidate.declaring).isSome = true) ∧
    ∀ bindings, source.bindingsBetween sub declaring = some bindings → sub ≠ declaring →
      (∀ path, source.Ascends sub path declaring → ∀ ascent ∈ path, source.Supplies ascent) →
        ∀ name ∈ source.parametersOf declaring, (bindings.get? name).isSome = true := by
  refine ⟨bindingsBetween_isSome_iff, ?_, ?_⟩
  · -- on a hierarchy without circles
    intro hAcyclic hFew
    have hFound : ∀ {goal}, ReflTransGen source.Extends sub goal →
        (source.bindingsBetween sub goal).isSome = true := by
      intro goal hLeads
      obtain ⟨path, hPath⟩ := exists_ascends hLeads
      have hShort := length_le_of_acyclic hAcyclic hPath
      exact bindingsBetween_isSome_iff.mpr ⟨path, hPath, Nat.le_trans hShort hFew⟩
    exact ⟨hFound, fun candidate hCandidate => hFound (leads_of_mem_candidates hCandidate)⟩
  · -- what is bound
    intro bindings hFound hOther hSupplies name hName
    rw [bindingsBetween, seekBindings_eq, Option.map_eq_some_iff] at hFound
    obtain ⟨path, hSought, rfl⟩ := hFound
    have hPath := ascends_of_seekAscents hSought
    refine isSome_get?_along .empty hPath ?_ (hSupplies path hPath) hName
    -- the empty way leads nowhere else
    rintro rfl
    cases hPath
    exact hOther rfl

end Introspect.Source

/-! ## A sample -/

namespace Introspect.Sample

/-- A level of a tower, named by as many strokes as there are levels below it. -/
def level (height : Nat) : TypeName := ⟨String.ofList (List.replicate height '|')⟩

/-- The method of the uppermost level, which returns what it is handed. -/
def getValue : Method Value :=
  { name := "getValue", returns? := some (.parameter "T"), parameters := [], isBridge := false
    body? := none }

/-- A level extends the next one, which it hands what it is handed itself, and the lowest one a text.
-/
def levelDescription (height : Nat) : Description Value :=
  { Description.plain (level height) .concrete with
    parameters := if height = 0 then [] else [⟨"T", .object⟩]
    superclass? :=
      if height < 66 then
        some (.applied (level (height + 1))
          [if height = 0 then .named ⟨"String"⟩ else .parameter "T"])
      else none
    methods := if height = 66 then [getValue] else [] }

/-- A tower of 67 levels. -/
def tower : Source Value := (Catalog.mk ((List.range 67).map levelDescription)).toSource

variable {height : Nat} {type other : TypeName} {description : Description Value}

theorem length_level (height : Nat) : (level height).text.length = height := by
  simp [level]

/-- Levels of different heights have names of different lengths. -/
theorem level_ne {lower upper : Nat} (hOther : lower ≠ upper) : level lower ≠ level upper := by
  intro hSame
  have hLength := length_level lower
  rw [hSame, length_level] at hLength
  exact hOther hLength.symm

/-- Among some levels, one above the other, a level is found by its name. -/
theorem find?_levels {low count : Nat} (hLow : low ≤ height) (hHeight : height < low + count) :
    ((List.range count).map fun above => levelDescription (low + above)).find?
        (·.type == level height) = some (levelDescription height) := by
  have hFirst : (List.range count).find? ((·.type == level height) ∘ fun above =>
      levelDescription (low + above)) = some (height - low) := by
    rw [List.find?_range_eq_some]
    refine ⟨?_, List.mem_range.mpr (by omega), ?_⟩
    · simp [levelDescription, Description.plain, Nat.add_sub_cancel' hLow]
    · -- the levels below have other names
      intro lower hLower
      have hOther : level (low + lower) ≠ level height := level_ne (by omega)
      simpa [levelDescription, Description.plain] using hOther
  rw [List.find?_map, hFirst, Option.map_some, Nat.add_sub_cancel' hLow]

/-- A level of the tower is found by its name. -/
theorem describe_level (hHeight : height < 67) :
    tower.describe (level height) = some (levelDescription height) := by
  have hFound := find?_levels (Nat.zero_le height) (show height < 0 + 67 by omega)
  simp only [Nat.zero_add] at hFound
  exact hFound

/-- Nothing but the levels is described. -/
theorem exists_height (h : tower.describe type = some description) :
    ∃ height < 67, type = level height ∧ description = levelDescription height := by
  have hFound : ((List.range 67).map levelDescription).find? (·.type == type) =
      some description := h
  obtain ⟨height, hHeight, rfl⟩ := List.mem_map.mp (List.mem_of_find?_eq_some hFound)
  have hType : (levelDescription height).type = type := by simpa using List.find?_some hFound
  exact ⟨height, List.mem_range.mp hHeight, hType.symm, rfl⟩

theorem supertypes_level (hHeight : height < 66) :
    (levelDescription height).supertypes =
      [.applied (level (height + 1)) [if height = 0 then .named ⟨"String"⟩ else .parameter "T"]] := by
  simp [Description.supertypes, levelDescription, Description.plain, hHeight]

theorem supertypes_top : (levelDescription 66).supertypes = [] := by
  simp [Description.supertypes, levelDescription, Description.plain]

/-- References lead from one level to the next, and nowhere else. -/
theorem extends_tower_iff :
    tower.Extends type other ↔ ∃ height < 66, type = level height ∧ other = level (height + 1) := by
  constructor
  · rintro ⟨description, hSome, hOther⟩
    obtain ⟨height, hHeight, rfl, rfl⟩ := exists_height hSome
    by_cases hTop : height < 66
    · rw [Description.supertypeNames, supertypes_level hTop] at hOther
      exact ⟨height, hTop, rfl, by simpa [TypeExpr.raw?] using hOther⟩
    · -- the top refers to nothing
      obtain rfl : height = 66 := by omega
      rw [Description.supertypeNames, supertypes_top] at hOther
      cases hOther
  · rintro ⟨height, hHeight, rfl, rfl⟩
    refine ⟨_, describe_level (by omega), ?_⟩
    rw [Description.supertypeNames, supertypes_level hHeight]
    simp [TypeExpr.raw?]

/-- References rise, so they never come back. -/
theorem tower_acyclic (type : TypeName) : ¬Relation.TransGen tower.Extends type type := by
  have hRises : ∀ {lower upper}, Relation.TransGen tower.Extends lower upper →
      lower.text.length < upper.text.length := by
    intro lower upper hLeads
    induction hLeads with
    | single hStep =>
      obtain ⟨height, -, rfl, rfl⟩ := extends_tower_iff.mp hStep
      rw [length_level, length_level]
      omega
    | tail _ hStep ih =>
      obtain ⟨height, -, rfl, rfl⟩ := extends_tower_iff.mp hStep
      rw [length_level] at ih ⊢
      omega
  exact fun hCircle => Nat.lt_irrefl _ (hRises hCircle)

/-- No parameter of the tower has a bound of its own. -/
theorem parameterBound_tower (name : String) (scopes : List TypeName) :
    tower.parameterBound name scopes = .object := by
  unfold Source.parameterBound
  -- a bound that is found belongs to a parameter of a level, and that is the same for all
  cases hBound : scopes.findSome? fun scope => (tower.describe scope).bind fun description =>
      (description.parameters.find? (·.name == name)).map Parameter.bound with
  | none => rfl
  | some bound =>
    obtain ⟨scope, -, hScope⟩ := List.exists_of_findSome?_eq_some hBound
    obtain ⟨description, hSome, hFound⟩ := Option.bind_eq_some_iff.mp hScope
    obtain ⟨parameter, hParameter, rfl⟩ := Option.map_eq_some_iff.mp hFound
    obtain ⟨height, -, -, rfl⟩ := exists_height hSome
    have hMember := List.mem_of_find?_eq_some hParameter
    by_cases hLowest : height = 0
    · simp [levelDescription, hLowest] at hMember
    · have hOnly : parameter = ⟨"T", .object⟩ := by
        simpa [levelDescription, hLowest] using hMember
      rw [hOnly]
      rfl

/-- How many levels are above one of them. -/
def levelsAbove (type : TypeName) : Nat := 66 - type.text.length

/-- Every reference goes up by one level only. -/
theorem le_length_of_ascends {lower upper : Nat} {path : List Ascent} (hTop : upper ≤ 66)
    (h : tower.Ascends (level lower) path (level upper)) : upper ≤ lower + path.length := by
  have hStep : ∀ type other, tower.Extends type other →
      levelsAbove type ≤ levelsAbove other + 1 := by
    intro type other hExtends
    obtain ⟨height, -, rfl, rfl⟩ := extends_tower_iff.mp hExtends
    unfold levelsAbove
    rw [length_level, length_level]
    omega
  have hRank := h.rank_le hStep
  unfold levelsAbove at hRank
  rw [length_level, length_level] at hRank
  omega

/-- There is a way up from each level to those above it. -/
theorem exists_ascends_tower {height : Nat} (count : Nat) (hTop : height + count ≤ 66) :
    ∃ path, tower.Ascends (level height) path (level (height + count)) ∧ path.length = count := by
  induction count generalizing height with
  | zero => exact ⟨[], .here _, rfl⟩
  | succ count ih =>
    obtain ⟨path, hPath, hLength⟩ := ih (show height + 1 + count ≤ 66 by omega)
    rw [show height + 1 + count = height + (count + 1) by omega] at hPath
    have hReference : TypeExpr.applied (level (height + 1))
        [if height = 0 then .named ⟨"String"⟩ else .parameter "T"] ∈
          (levelDescription height).supertypes := by
      rw [supertypes_level (by omega)]
      exact List.mem_singleton.mpr rfl
    exact ⟨_, .step (describe_level (by omega)) hReference rfl hPath,
      by rw [List.length_cons, hLength]⟩

/-- The references of the tower supply what they are asked for. -/
theorem supplies_tower {sub goal : TypeName} {path : List Ascent}
    (h : tower.Ascends sub path goal) : ∀ ascent ∈ path, tower.Supplies ascent := by
  intro ascent hAscent
  obtain ⟨-, description, hSome, hReference, -⟩ := h.of_mem hAscent
  obtain ⟨height, hHeight, -, rfl⟩ := exists_height hSome
  have hOne : ascent.reference.arguments.length = 1 := by
    by_cases hTop : height < 66
    · rw [supertypes_level hTop, List.mem_singleton] at hReference
      rw [hReference]
      rfl
    · obtain rfl : height = 66 := by omega
      rw [supertypes_top] at hReference
      cases hReference
  -- no level has more than one parameter
  unfold Source.Supplies Source.parametersOf
  rw [hOne]
  cases hSuper : tower.describe ascent.super with
  | none => exact Nat.zero_le 1
  | some description =>
    obtain ⟨upper, -, -, rfl⟩ := exists_height hSuper
    by_cases hLowest : upper = 0
    · simp [levelDescription, hLowest]
    · simp [levelDescription, hLowest]

/-- The tower without its two lowest levels. -/
def upperTower : Source Value :=
  (Catalog.mk ((List.range 65).map fun above => levelDescription (2 + above))).toSource

/-- The upper levels are described as they are in the whole tower. -/
theorem describe_of_upperTower (h : upperTower.describe type = some description) :
    tower.describe type = some description := by
  have hFound : ((List.range 65).map fun above => levelDescription (2 + above)).find?
      (·.type == type) = some description := h
  obtain ⟨above, hAbove, rfl⟩ := List.mem_map.mp (List.mem_of_find?_eq_some hFound)
  have hType : (levelDescription (2 + above)).type = type := by simpa using List.find?_some hFound
  have hHeight := List.mem_range.mp hAbove
  rw [← hType]
  exact describe_level (by omega)

/-- So nothing runs in a circle there either. -/
theorem upperTower_acyclic (type : TypeName) :
    ¬Relation.TransGen upperTower.Extends type type := by
  intro hCircle
  have hExtends : upperTower.Extends ≤ tower.Extends := by
    rintro lower upper ⟨description, hSome, hUpper⟩
    exact ⟨description, describe_of_upperTower hSome, hUpper⟩
  exact tower_acyclic type (Relation.TransGen.mono hExtends _ _ hCircle)

/-- References lead from the lowest of the upper levels to all others. -/
theorem leads_upperTower {count : Nat} (hTop : 2 + count ≤ 66) :
    Relation.ReflTransGen upperTower.Extends (level 2) (level (2 + count)) := by
  induction count with
  | zero => exact .refl
  | succ count ih =>
    have hSome : upperTower.describe (level (2 + count)) = some (levelDescription (2 + count)) :=
      find?_levels (by omega) (by omega)
    refine (ih (by omega)).tail ⟨_, hSome, ?_⟩
    rw [Description.supertypeNames, supertypes_level (by omega)]
    simp [TypeExpr.raw?, Nat.add_assoc]

end Introspect.Sample

namespace Introspect.Source

open Relation Sample

/-- Without its two lowest levels the tower has as many as references are followed, and nothing runs
in a circle there, so its top is found from its bottom. In the whole tower, the level below the top is
65 references away from the lowest, and something is found for its parameter. -/
theorem arguments_found_tower :
    ((∀ type, ¬TransGen upperTower.Extends type type) ∧
      upperTower.known.length = referenceLimit ∧
      ReflTransGen upperTower.Extends (level 2) (level 66) ∧
      (upperTower.bindingsBetween (level 2) (level 66)).isSome = true) ∧
    level 0 ≠ level 65 ∧
      (∃ path, tower.Ascends (level 0) path (level 65) ∧ path.length ≤ referenceLimit) ∧
      (∀ path, tower.Ascends (level 0) path (level 65) →
        ∀ ascent ∈ path, tower.Supplies ascent) ∧
      "T" ∈ tower.parametersOf (level 65) ∧
      ∃ bindings, tower.bindingsBetween (level 0) (level 65) = some bindings ∧
        (bindings.get? "T").isSome = true := by
  have hOther : level 0 ≠ level 65 := level_ne (by omega)
  have hSupplies : ∀ path, tower.Ascends (level 0) path (level 65) →
      ∀ ascent ∈ path, tower.Supplies ascent := fun _ hPath => supplies_tower hPath
  have hName : "T" ∈ tower.parametersOf (level 65) := by
    rw [parametersOf, describe_level (by omega)]
    simp [levelDescription]
  obtain ⟨path, hPath, hLength⟩ := exists_ascends_tower 65 (show 0 + 65 ≤ 66 by omega)
  have hShort : ∃ path, tower.Ascends (level 0) path (level 65) ∧ path.length ≤ referenceLimit :=
    ⟨path, hPath, Nat.le_of_eq hLength⟩
  obtain ⟨hReach, -, hBound⟩ := arguments_found tower (level 0) (level 65)
  obtain ⟨bindings, hFound⟩ := Option.isSome_iff_exists.mp (hReach.mpr hShort)
  -- without circles, what references lead to is found among so few types
  have hFew : upperTower.known.length = referenceLimit := by
    simp [upperTower, Catalog.toSource, Catalog.names, referenceLimit]
  have hLeads : ReflTransGen upperTower.Extends (level 2) (level 66) :=
    leads_upperTower (show 2 + 64 ≤ 66 by omega)
  obtain ⟨-, hAcyclic, -⟩ := arguments_found upperTower (level 2) (level 66)
  have hTopFound := (hAcyclic upperTower_acyclic (Nat.le_of_eq hFew)).1 hLeads
  exact ⟨⟨upperTower_acyclic, hFew, hLeads, hTopFound⟩, hOther, hShort, hSupplies, hName, bindings,
    hFound, hBound bindings hFound hOther hSupplies "T" hName⟩

/-- The top of the tower is 66 references away. Nothing in the tower runs in a circle, and every
reference supplies its argument, but nothing is found; so what the method of the top returns is
anything, and no text. -/
theorem arguments_lost_in_tower :
    (∀ type, ¬TransGen tower.Extends type type) ∧
      TransGen tower.Extends (level 0) (level 66) ∧
      (∀ path, tower.Ascends (level 0) path (level 66) → ∀ ascent ∈ path, tower.Supplies ascent) ∧
      tower.bindingsBetween (level 0) (level 66) = none ∧
      tower.memberType (.parameter "T") (level 66) (level 0) = .named .object := by
  obtain ⟨path, hPath, -⟩ := exists_ascends_tower 66 (show 0 + 66 ≤ 66 by omega)
  have hOther : level 66 ≠ level 0 := level_ne (by omega)
  have hLeads := (reflTransGen_iff_eq_or_transGen.mp hPath.leads).resolve_left hOther
  have hNone : tower.bindingsBetween (level 0) (level 66) = none := by
    rw [← Option.not_isSome_iff_eq_none, bindingsBetween_isSome_iff]
    rintro ⟨short, hShort, hLength⟩
    have hLong := le_length_of_ascends (Nat.le_refl 66) hShort
    unfold referenceLimit at hLength
    omega
  refine ⟨tower_acyclic, hLeads, fun _ hPath => supplies_tower hPath, hNone, ?_⟩
  rw [memberType_of_none hNone, parameterBound_tower]

end Introspect.Source
