import Introspect.Proofs.Hierarchy
import Mathlib.Data.List.Perm.Subperm

/-!
# Walks, nearest types first

What is pending in a walk is a queue: a type joins it behind everything that was referred to before.
So the types are met in the order in which those that were met before refer to them, and none is met
before another that fewer references lead to.

* `Source.firstMet` — the described types of a list that have not been visited, each where it comes
  first.
* `Source.StepsTo` — so many references lead from one type to another.
* `Source.BreadthFirst` — what a walk from one type meets, and in which order.

Main results:

* `nodup_walk`: no type is met twice.
* `walk_eq_firstMet`: what is met is what is pending at first and what the types that are met refer
  to, in this order.
* `nearest_first`: no type is met before a nearer one.
* `breadthFirst_walk`: all of it, for a walk from one type that has not been visited.
-/

namespace Introspect.Source

open Relation

variable {V : Type} {source : Source V} {next : Description V → List TypeName}
  {visited pending rest : List TypeName} {type other : TypeName} {description : Description V}

/-! ## Step by step -/

theorem walk_of_mem (hOld : type ∈ visited) :
    source.walk next visited (type :: rest) = source.walk next visited rest := by
  rw [walk, dif_pos hOld]

/-- A walk passes over what is not described. -/
theorem walk_of_none (hNone : source.describe type = none) :
    source.walk next visited (type :: rest) = source.walk next visited rest := by
  rw [walk]
  split
  · rfl
  · split
    · rfl
    · rename_i hSome
      rw [hNone] at hSome
      cases hSome

/-- A walk meets a new type, and puts what that refers to behind what is pending. -/
theorem walk_of_some (hNew : type ∉ visited) (hSome : source.describe type = some description) :
    source.walk next visited (type :: rest) =
      (type, description) :: source.walk next (type :: visited) (rest ++ next description) := by
  rw [walk, dif_neg hNew]
  split
  · rename_i hNone
    rw [hSome] at hNone
    cases hNone
  · rename_i other hOther
    rw [hSome] at hOther
    cases hOther
    rfl

/-- A chain ends at the root of all classes, and where it has been before. -/
theorem superclassChain_of_stop (hStop : type = .object ∨ type ∈ visited) :
    source.superclassChain visited type = [] := by
  rw [superclassChain, dif_pos hStop]

/-- A chain ends at a class that is not described. -/
theorem superclassChain_of_none (hNone : source.describe type = none) :
    source.superclassChain visited type = [] := by
  rw [superclassChain]
  split
  · rfl
  · split
    · rfl
    · rename_i hSome
      rw [hNone] at hSome
      cases hSome

/-- A chain goes on with the superclass, if there is one. -/
theorem superclassChain_of_some (hGo : ¬(type = .object ∨ type ∈ visited))
    (hSome : source.describe type = some description) :
    source.superclassChain visited type =
      (type, description) ::
        match description.superclassName? with
        | none => []
        | some superclass => source.superclassChain (type :: visited) superclass := by
  rw [superclassChain, dif_neg hGo]
  split
  · rename_i hNone
    rw [hSome] at hNone
    cases hNone
  · rename_i other hOther
    rw [hSome] at hOther
    cases hOther
    rfl

/-- Visits end at the root of all classes, and where they have been before. -/
theorem methodOwners_of_stop (hStop : type = .object ∨ type ∈ visited) :
    source.methodOwners visited type = [] := by
  rw [methodOwners, dif_pos hStop]

/-- Visits end at a class that is not described. -/
theorem methodOwners_of_none (hNone : source.describe type = none) :
    source.methodOwners visited type = [] := by
  rw [methodOwners]
  split
  · rfl
  · split
    · rfl
    · rename_i hSome
      rw [hNone] at hSome
      cases hSome

/-- After a class and its interfaces come the visits that begin at its superclass. -/
theorem methodOwners_of_some (hGo : ¬(type = .object ∨ type ∈ visited))
    (hSome : source.describe type = some description) :
    source.methodOwners visited type =
      (type, description) :: source.interfacesOf visited type description ++
        match description.superclassName? with
        | none => []
        | some superclass =>
          source.methodOwners ((source.interfacesOf visited type description).map Prod.fst ++
            type :: visited) superclass := by
  rw [methodOwners, dif_neg hGo]
  split
  · rename_i hNone
    rw [hSome] at hNone
    cases hNone
  · rename_i other hOther
    rw [hSome] at hOther
    cases hOther
    rfl

/-! ## No type twice -/

/-- A walk meets no type twice. -/
theorem nodup_walk (source : Source V) (next : Description V → List TypeName)
    (visited pending : List TypeName) :
    ((source.walk next visited pending).map Prod.fst).Nodup := by
  fun_induction source.walk next visited pending with
  | case1 visited => exact List.nodup_nil
  | case2 visited type rest _ ih => exact ih
  | case3 visited type rest _ _ ih => exact ih
  | case4 visited type rest _ description _ ih =>
    rw [List.map_cons, List.nodup_cons]
    refine ⟨?_, ih⟩
    -- the type counts as visited for the rest of the walk
    intro hAgain
    obtain ⟨met, hMet, hSame⟩ := List.mem_map.mp hAgain
    have hNew : met.1 ∉ type :: visited := (of_mem_walk hMet).2.1
    exact hNew (hSame ▸ List.mem_cons_self)

/-- Described types that come once are no more than there are. -/
theorem length_le_known {types : List TypeName} (hOnce : types.Nodup)
    (hDescribed : ∀ type ∈ types, (source.describe type).isSome = true) :
    types.length ≤ source.known.length := by
  -- what is described is known, and each type is counted once
  have hKnown : types ⊆ source.known := fun type hType =>
    source.mem_known type (hDescribed type hType)
  exact (List.subperm_of_subset hOnce hKnown).length_le

/-- Types that are met with their descriptions are described. -/
theorem isSome_of_mem_map {owners : List (Described V)}
    (hDescribed : ∀ owner ∈ owners, source.describe owner.1 = some owner.2) :
    ∀ type ∈ owners.map Prod.fst, (source.describe type).isSome = true := by
  intro type hType
  obtain ⟨owner, hOwner, rfl⟩ := List.mem_map.mp hType
  rw [hDescribed owner hOwner]
  rfl

/-! ## The order of a walk -/

/-- The described types of a list that have not been visited, each where it comes first. -/
def firstMet (source : Source V) (visited : List TypeName) : List TypeName → List (Described V)
  | [] => []
  | type :: rest =>
    if type ∈ visited then source.firstMet visited rest
    else
      match source.describe type with
      | none => source.firstMet visited rest
      | some description => (type, description) :: source.firstMet (type :: visited) rest

theorem firstMet_of_mem (hOld : type ∈ visited) :
    source.firstMet visited (type :: rest) = source.firstMet visited rest := by
  rw [firstMet, if_pos hOld]

/-- What is not described is not met. -/
theorem firstMet_of_none (hNone : source.describe type = none) :
    source.firstMet visited (type :: rest) = source.firstMet visited rest := by
  rw [firstMet, hNone]
  split
  · rfl
  · rfl

/-- A new type is met where it comes first. -/
theorem firstMet_of_some (hNew : type ∉ visited)
    (hSome : source.describe type = some description) :
    source.firstMet visited (type :: rest) =
      (type, description) :: source.firstMet (type :: visited) rest := by
  rw [firstMet, if_neg hNew, hSome]

/-- What is met of a list stands in it, is new and is described. -/
theorem of_mem_firstMet {types : List TypeName} {met : Described V}
    (hMet : met ∈ source.firstMet visited types) :
    met.1 ∈ types ∧ met.1 ∉ visited ∧ source.describe met.1 = some met.2 := by
  fun_induction source.firstMet visited types with
  | case1 visited => cases hMet
  | case2 visited type rest _ ih =>
    obtain ⟨hRest, hNew⟩ := ih hMet
    exact ⟨List.mem_cons_of_mem _ hRest, hNew⟩
  | case3 visited type rest _ _ ih =>
    obtain ⟨hRest, hNew⟩ := ih hMet
    exact ⟨List.mem_cons_of_mem _ hRest, hNew⟩
  | case4 visited type rest hNew description hSome ih =>
    rcases List.mem_cons.mp hMet with rfl | hLater
    · exact ⟨List.mem_cons_self, hNew, hSome⟩
    · obtain ⟨hRest, hLaterNew, hLaterSome⟩ := ih hLater
      exact ⟨List.mem_cons_of_mem _ hRest, fun hOld => hLaterNew (List.mem_cons_of_mem _ hOld),
        hLaterSome⟩

/-- A described type of the list is met if it is new. -/
theorem mem_firstMet {types : List TypeName} (hMember : type ∈ types) (hNew : type ∉ visited)
    (hSome : source.describe type = some description) :
    (type, description) ∈ source.firstMet visited types := by
  induction types generalizing visited with
  | nil => cases hMember
  | cons first rest ih =>
    by_cases hSame : type = first
    · subst hSame
      rw [firstMet_of_some hNew hSome]
      exact List.mem_cons_self
    -- the type comes later, and the first one hides only itself
    · have hRest : type ∈ rest := (List.mem_cons.mp hMember).resolve_left hSame
      by_cases hOld : first ∈ visited
      · rw [firstMet_of_mem hOld]
        exact ih hRest hNew
      · cases hFirst : source.describe first with
        | none =>
          rw [firstMet_of_none hFirst]
          exact ih hRest hNew
        | some held =>
          rw [firstMet_of_some hOld hFirst]
          have hStillNew : type ∉ first :: visited := by
            rw [List.mem_cons, not_or]
            exact ⟨hSame, hNew⟩
          exact List.mem_cons_of_mem _ (ih hRest hStillNew)

/-- **What is met is what is referred to**, by the start and by the types that are met, each type
where it comes first. -/
theorem walk_eq_firstMet (source : Source V) (next : Description V → List TypeName)
    (visited pending : List TypeName) :
    source.walk next visited pending = source.firstMet visited
      (pending ++ (source.walk next visited pending).flatMap (next ·.2)) := by
  fun_induction source.walk next visited pending with
  | case1 visited => rfl
  | case2 visited type rest hOld ih =>
    -- what is passed over by the walk is passed over in the list
    rwa [List.cons_append, firstMet_of_mem hOld]
  | case3 visited type rest _ hNone ih => rwa [List.cons_append, firstMet_of_none hNone]
  | case4 visited type rest hNew description hSome ih =>
    -- the references of the type that is met stand behind what was pending
    rw [List.cons_append, firstMet_of_some hNew hSome, List.flatMap_cons, ← List.append_assoc, ← ih]

/-- The front of the queue is met before anything that it refers to. -/
theorem walk_append (source : Source V) (next : Description V → List TypeName)
    (visited front back : List TypeName) :
    source.walk next visited (front ++ back) =
      source.firstMet visited front ++
        source.walk next (((source.firstMet visited front).map Prod.fst).reverse ++ visited)
          (back ++ (source.firstMet visited front).flatMap (next ·.2)) := by
  induction front generalizing visited back with
  | nil => simp [firstMet]
  -- along the front, each of whose types goes before what it refers to
  | cons type rest ih =>
    by_cases hOld : type ∈ visited
    · rw [List.cons_append, walk_of_mem hOld, firstMet_of_mem hOld, ih]
    · cases hType : source.describe type with
      | none => rw [List.cons_append, walk_of_none hType, firstMet_of_none hType, ih]
      | some description =>
        rw [List.cons_append, walk_of_some hOld hType, firstMet_of_some hOld hType,
          List.append_assoc, ih]
        simp

/-! ## Distances -/

/-- So many references lead from one type to another. -/
def StepsTo (source : Source V) (next : Description V → List TypeName) :
    Nat → TypeName → TypeName → Prop
  | 0, type, other => type = other
  | count + 1, type, other =>
    ∃ middle, source.Refers next type middle ∧ source.StepsTo next count middle other

/-- From some of the starts, no more references lead to one type than to another. -/
def NoFarther (source : Source V) (next : Description V → List TypeName)
    (starts : List TypeName) (near far : TypeName) : Prop :=
  ∀ count, (∃ start ∈ starts, source.StepsTo next count start far) →
    ∃ fewer ≤ count, ∃ start ∈ starts, source.StepsTo next fewer start near

/-- Nothing leads on from a type without a description. -/
theorem StepsTo.eq_of_undescribed {count : Nat} (hNone : source.describe type = none)
    (h : source.StepsTo next count type other) : type = other := by
  cases count with
  | zero => exact h
  | succ count =>
    obtain ⟨middle, ⟨description, hSome, -⟩, -⟩ := h
    rw [hNone] at hSome
    cases hSome

/-- Where nothing is left behind, a way from a visited type to one that is yet to be met leads past
a pending type. -/
theorem StepsTo.exists_fewer {count : Nat} (hClosed : source.Closed next visited pending)
    (hStart : type ∈ visited) (hNew : other ∉ visited)
    (hOther : source.describe other = some description)
    (h : source.StepsTo next count type other) :
    ∃ fewer < count, ∃ start ∈ pending, source.StepsTo next fewer start other := by
  induction count generalizing type with
  | zero =>
    obtain rfl : type = other := h
    exact absurd hStart hNew
  | succ count ih =>
    obtain ⟨middle, hStep, hRest⟩ := h
    rcases hClosed type hStart middle hStep with hMiddle | hMiddle | hNone
    · -- from another visited type, by induction
      obtain ⟨fewer, hFewer, hFound⟩ := ih hMiddle hRest
      exact ⟨fewer, Nat.lt_succ_of_lt hFewer, hFound⟩
    · -- the next type is pending, and the way is one reference shorter from there
      exact ⟨count, Nat.lt_succ_self count, middle, hMiddle, hRest⟩
    · -- the way would have to end at a type without a description
      rw [hRest.eq_of_undescribed hNone, hOther] at hNone
      cases hNone

/-- When the pending types have been met, still nothing is left behind: what they refer to is
pending. -/
theorem Closed.firstMet (hClosed : source.Closed next visited pending) :
    source.Closed next (((source.firstMet visited pending).map Prod.fst).reverse ++ visited)
      ((source.firstMet visited pending).flatMap (next ·.2)) := by
  intro type hType other hStep
  rcases List.mem_append.mp hType with hMet | hOld
  · -- a type of the front has just put its references into the queue
    obtain ⟨met, hMember, rfl⟩ := List.mem_map.mp (List.mem_reverse.mp hMet)
    obtain ⟨description, hSome, hOther⟩ := hStep
    rw [(of_mem_firstMet hMember).2.2] at hSome
    cases hSome
    exact .inr (.inl (List.mem_flatMap.mpr ⟨met, hMember, hOther⟩))
  · rcases hClosed type hOld other hStep with hOther | hOther | hNone
    · -- what has been visited stays so
      exact .inl (List.mem_append_right _ hOther)
    · cases hDescribed : source.describe other with
      | none => exact .inr (.inr rfl)
      | some description =>
        -- a pending type that is described has been visited now, if it had not been before
        by_cases hSeen : other ∈ visited
        · exact .inl (List.mem_append_right _ hSeen)
        · have hMet : (other, description) ∈ source.firstMet visited pending :=
            mem_firstMet hOther hSeen hDescribed
          exact .inl (List.mem_append_left _
            (List.mem_reverse.mpr (List.mem_map.mpr ⟨_, hMet, rfl⟩)))
    · exact .inr (.inr hNone)

/-- A type that is met behind the pending ones is reached by one reference more than it is from what
these refer to. -/
theorem NoFarther.behind {near far : TypeName} (hClosed : source.Closed next visited pending)
    (hNew : far ∉ visited) (hFar : source.describe far = some description)
    (hBehind : ∀ met ∈ source.firstMet visited pending, met.1 ≠ far)
    (h : source.NoFarther next ((source.firstMet visited pending).flatMap (next ·.2)) near far) :
    source.NoFarther next pending near far := by
  intro count hCount
  induction count using Nat.strongRecOn with
  | ind count ih =>
    obtain ⟨start, hStart, hSteps⟩ := hCount
    cases count with
    | zero =>
      -- a pending type is not behind the pending ones
      obtain rfl : start = far := hSteps
      exact absurd rfl (hBehind (start, description) (mem_firstMet hStart hNew hFar))
    | succ count =>
      by_cases hSeen : start ∈ visited
      · -- from a visited type the way leads past a pending one, which is nearer
        obtain ⟨fewer, hFewer, hFound⟩ := hSteps.exists_fewer hClosed hSeen hNew hFar
        obtain ⟨least, hLeast, hNear⟩ := ih fewer hFewer hFound
        exact ⟨least, by omega, hNear⟩
      · obtain ⟨middle, ⟨held, hHeld, hMiddle⟩, hRest⟩ := hSteps
        have hMet : (start, held) ∈ source.firstMet visited pending :=
          mem_firstMet hStart hSeen hHeld
        obtain ⟨fewer, hFewer, first, hFirst, hNear⟩ :=
          h count ⟨middle, List.mem_flatMap.mpr ⟨_, hMet, hMiddle⟩, hRest⟩
        -- what the front refers to is one reference away from it
        obtain ⟨met, hMet, hStep⟩ := List.mem_flatMap.mp hFirst
        obtain ⟨hPending, -, hDescribed⟩ := of_mem_firstMet hMet
        exact ⟨fewer + 1, by omega, met.1, hPending, first, ⟨met.2, hDescribed, hStep⟩, hNear⟩

/-- **A walk meets no type before a nearer one.** -/
theorem nearest_first (hClosed : source.Closed next visited pending) :
    (source.walk next visited pending).Pairwise fun near far =>
      source.NoFarther next pending near.1 far.1 := by
  -- by induction on how many types there are left to visit, a front at a time
  induction hLeft : source.unvisited visited using Nat.strongRecOn generalizing visited pending with
  | ind left ih =>
    have hSplit := source.walk_append next visited pending []
    rw [List.append_nil, List.nil_append] at hSplit
    -- a pending type is no reference away from the start
    have hPending : ∀ near ∈ source.firstMet visited pending, ∀ far,
        source.NoFarther next pending near.1 far := by
      intro near hNear far count _
      exact ⟨0, Nat.zero_le count, near.1, (of_mem_firstMet hNear).1, rfl⟩
    rw [hSplit, List.pairwise_append]
    refine ⟨List.pairwise_iff_forall_sublist.mpr fun hPair => ?_, ?_,
      fun near hNear far _ => hPending near hNear far.1⟩
    · -- within the front
      exact hPending _ (hPair.subset List.mem_cons_self) _
    · cases hMet : source.firstMet visited pending with
      | nil => simp [walk]
      | cons first others =>
        rw [← hMet]
        -- the walk behind the front has fewer types left to visit
        have hFirst : first ∈ source.firstMet visited pending := by simp [hMet]
        obtain ⟨-, hNew, hSome⟩ := of_mem_firstMet hFirst
        have hFewer : source.unvisited
            (((source.firstMet visited pending).map Prod.fst).reverse ++ visited) < left := by
          rw [← hLeft]
          exact countP_lt_countP (by simp +contextual)
            (source.mem_known first.1 (by rw [hSome]; rfl)) (by simpa using hNew)
            (by simp only [List.mem_append, List.mem_reverse, decide_eq_false_iff_not, not_not]
                exact .inl (List.mem_map_of_mem hFirst))
        -- behind the front the distances count from what the front refers to
        refine (ih _ hFewer hClosed.firstMet rfl).imp_of_mem fun {near far} _ hFar hNearer => ?_
        obtain ⟨hFarSome, hFarNew, -⟩ := of_mem_walk hFar
        rw [List.mem_append, not_or] at hFarNew
        refine hNearer.behind hClosed hFarNew.2 hFarSome fun met hMember hSame => hFarNew.1 ?_
        exact List.mem_reverse.mpr (List.mem_map.mpr ⟨met, hMember, hSame⟩)

/-! ## Walks from one type -/

/-- What a walk from one type meets: everything described that references lead to and that has not
been visited, each type once, nearer types first, and among them in the order in which the types
before refer to them. -/
structure BreadthFirst (source : Source V) (next : Description V → List TypeName)
    (visited : List TypeName) (start : TypeName) (met : List (Described V)) : Prop where
  once : (met.map Prod.fst).Nodup
  mem_iff : ∀ {owner : Described V}, owner ∈ met ↔
    source.describe owner.1 = some owner.2 ∧ owner.1 ∉ visited ∧
      ReflTransGen (source.Refers next) start owner.1
  nearest : met.Pairwise fun near far => ∀ count, source.StepsTo next count start far.1 →
    ∃ fewer ≤ count, source.StepsTo next fewer start near.1
  inOrder : met = source.firstMet visited (start :: met.flatMap (next ·.2))

/-- Where nothing is left behind, nothing is if more is pending. -/
theorem Closed.more (hClosed : source.Closed next visited []) (pending : List TypeName) :
    source.Closed next visited pending := by
  intro type hType other hStep
  rcases hClosed type hType other hStep with hOther | hOther | hNone
  · exact .inl hOther
  · cases hOther
  · exact .inr (.inr hNone)

/-- A walk leaves nothing behind. -/
theorem Closed.walk (hClosed : source.Closed next visited pending) :
    source.Closed next ((source.walk next visited pending).map Prod.fst ++ visited) [] := by
  intro type hType other hStep
  cases hOther : source.describe other with
  | none => exact .inr (.inr rfl)
  | some description =>
    left
    -- what a met or visited type refers to has been visited before, or is met
    have hFound : other ∈ visited ∨ (other, description) ∈ source.walk next visited pending := by
      rcases List.mem_append.mp hType with hMet | hOld
      · obtain ⟨met, hMember, rfl⟩ := List.mem_map.mp hMet
        obtain ⟨-, -, start, hStart, hLeads⟩ := of_mem_walk hMember
        exact mem_walk_of_leads hClosed (.inr hStart) (hLeads.tail hStep) hOther
      · exact mem_walk_of_leads hClosed (.inl hOld) (.single hStep) hOther
    rcases hFound with hOld | hMet
    · exact List.mem_append_right _ hOld
    · exact List.mem_append_left _ (List.mem_map.mpr ⟨_, hMet, rfl⟩)

/-- **A walk from one type is breadth first**, if nothing was left behind before. -/
theorem breadthFirst_walk (hClosed : source.Closed next visited []) :
    source.BreadthFirst next visited type (source.walk next visited [type]) where
  once := source.nodup_walk next visited [type]
  mem_iff := by
    intro owner
    constructor
    · intro hMet
      obtain ⟨hSome, hOwner, start, hStart, hLeads⟩ := of_mem_walk hMet
      obtain rfl := List.mem_singleton.mp hStart
      exact ⟨hSome, hOwner, hLeads⟩
    · rintro ⟨hSome, hOwner, hLeads⟩
      have hFound := mem_walk_of_leads (hClosed.more [type])
        (.inr List.mem_cons_self) hLeads hSome
      exact hFound.resolve_left hOwner
  nearest := by
    refine (nearest_first (hClosed.more [type])).imp fun {near far} hNear count hSteps => ?_
    obtain ⟨fewer, hFewer, start, hStart, hFound⟩ :=
      hNear count ⟨type, List.mem_cons_self, hSteps⟩
    obtain rfl := List.mem_singleton.mp hStart
    exact ⟨fewer, hFewer, hFound⟩
  inOrder := source.walk_eq_firstMet next visited [type]

end Introspect.Source
