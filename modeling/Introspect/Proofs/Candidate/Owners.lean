import Introspect.Proofs.Hierarchy.Walk
import Introspect.Proofs.Candidate

/-!
# Where methods are taken from

The types whose methods a type has are visited class by class, each class with the interfaces that it
leads to. Classes and interfaces share what counts as visited. So a class of the chain that is an
interface of one below it is visited there, as an interface, and ends the climb: what it extends is
not visited for its sake.

* `Source.Implements` — references to interfaces lead from one type to another.
* `Source.Collects` — the visits, class by class.
* `Source.Climbs` — the part of a chain that is climbed, and what ends it.

Main results:

* `nodup_methodOwners`: no type is visited twice.
* `collects_methodOwners`: which types are visited, and in which order.
* `climbs_methodOwners`: the visited types are those that the climbed part of the chain leads to.
-/

namespace Introspect.Source

open Relation

variable {V : Type} {source : Source V} {visited : List TypeName} {type : TypeName}
  {description : Description V}

/-- No or more references to interfaces lead from one type to another. -/
def Implements (source : Source V) : TypeName → TypeName → Prop :=
  ReflTransGen (source.Refers Description.interfaceNames)

/-! ## Class by class -/

/-- The visits that begin at a class, if there is one: the class and the interfaces that it leads to,
breadth first, then the same for what it extends. They end before the root of all classes, a type
without a description and a type that was visited before. -/
inductive Collects (source : Source V) :
    List TypeName → Option TypeName → List (Described V) → Prop where
  | top {visited : List TypeName} : Collects source visited none []
  | stop {visited : List TypeName} {type : TypeName}
      (hStop : type = .object ∨ source.describe type = none ∨ type ∈ visited) :
      Collects source visited (some type) []
  | climb {visited : List TypeName} {type : TypeName} {description : Description V}
      {interfaces above : List (Described V)} (hOther : type ≠ .object)
      (hSome : source.describe type = some description) (hNew : type ∉ visited)
      (hHere : source.BreadthFirst Description.interfaceNames visited type
        ((type, description) :: interfaces))
      (hAbove : Collects source (interfaces.map Prod.fst ++ type :: visited)
        description.superclassName? above) :
      Collects source visited (some type) ((type, description) :: interfaces ++ above)

/-- A class and the interfaces that it leads to are one walk. -/
theorem cons_interfacesOf (hNew : type ∉ visited) (hSome : source.describe type = some description) :
    (type, description) :: source.interfacesOf visited type description =
      source.walk Description.interfaceNames visited [type] := by
  rw [walk_of_some hNew hSome, List.nil_append, interfacesOf]

/-- After a class and its interfaces, no interface is left behind. -/
theorem Closed.interfacesOf (hClosed : source.Closed Description.interfaceNames visited [])
    (hSome : source.describe type = some description) :
    source.Closed Description.interfaceNames
      ((source.interfacesOf visited type description).map Prod.fst ++ type :: visited) [] :=
  ((hClosed.more [type]).visit hSome).walk

/-- **Methods are collected class by class.** -/
theorem collects_methodOwners (hClosed : source.Closed Description.interfaceNames visited []) :
    source.Collects visited (some type) (source.methodOwners visited type) := by
  -- class by class: the first visits of each are one walk along its interfaces
  fun_induction source.methodOwners visited type with
  | case1 visited type hStop =>
    rcases hStop with hRoot | hOld
    · exact .stop (.inl hRoot)
    · exact .stop (.inr (.inr hOld))
  | case2 visited type _ hNone => exact .stop (.inr (.inl hNone))
  | case3 visited type hGo description hSome interfaces ih =>
    obtain ⟨hOther, hNew⟩ := not_or.mp hGo
    have hHere : source.BreadthFirst Description.interfaceNames visited type
        (source.walk Description.interfaceNames visited [type]) := breadthFirst_walk hClosed
    rw [← cons_interfacesOf hNew hSome] at hHere
    refine .climb hOther hSome hNew hHere ?_
    cases hSuperclass : description.superclassName? with
    | none => exact .top
    | some superclass => exact ih superclass (hClosed.interfacesOf hSome)

/-- No type is visited twice. -/
theorem nodup_methodOwners (source : Source V) (visited : List TypeName) (type : TypeName) :
    ((source.methodOwners visited type).map Prod.fst).Nodup := by
  fun_induction source.methodOwners visited type with
  | case1 => exact List.nodup_nil
  | case2 => exact List.nodup_nil
  | case3 visited type hGo description hSome interfaces ih =>
    have hHere : (((type, description) :: interfaces).map Prod.fst).Nodup := by
      have hWalk := source.nodup_walk Description.interfaceNames visited [type]
      rwa [← cons_interfacesOf (not_or.mp hGo).2 hSome] at hWalk
    rw [List.map_append, List.nodup_append]
    cases hSuperclass : description.superclassName? with
    | none => exact ⟨hHere, List.nodup_nil, by simp⟩
    | some superclass =>
      refine ⟨hHere, ih superclass, ?_⟩
      -- what is visited above counts neither the class nor its interfaces
      intro here hVisited above hAbove hSame
      obtain ⟨owner, hOwner, rfl⟩ := List.mem_map.mp hAbove
      have hNew := notMem_of_mem_methodOwners hOwner
      rw [List.mem_append, List.mem_cons, not_or, not_or] at hNew
      rcases List.mem_cons.mp hVisited with hClass | hInterface
      · exact hNew.2.1 (hSame ▸ hClass)
      · exact hNew.1 (hSame ▸ hInterface)

/-! ## The climbed part of a chain -/

/-- A chain of classes of which a lower part is climbed: the visited types are those that it leads
to, none of its classes is an interface of one below, and the class that ends the climb is one, if it
was not visited before. -/
structure Climbs (source : Source V) (visited : List TypeName)
    (climbed rest owners : List (Described V)) : Prop where
  new : ∀ owner ∈ climbed, owner.1 ∉ visited
  mem_iff : ∀ {owner : Described V}, owner ∈ owners ↔
    source.describe owner.1 = some owner.2 ∧ owner.1 ∉ visited ∧
      ∃ lower ∈ climbed, source.Implements lower.1 owner.1
  apart : climbed.Pairwise fun lower upper => ¬source.Implements lower.1 upper.1
  ended : ∀ barrier ∈ rest.head?, barrier.1 ∈ visited ∨
    ∃ lower ∈ climbed, source.Implements lower.1 barrier.1

/-- Where nothing is visited, nothing is climbed. -/
theorem Climbs.none {rest : List (Described V)}
    (hEnded : ∀ barrier ∈ rest.head?, barrier.1 ∈ visited) :
    source.Climbs visited [] rest [] where
  new := by simp
  mem_iff := by simp
  apart := .nil
  ended := fun barrier hBarrier => .inl (hEnded barrier hBarrier)

/-- One more class below a chain that is climbed from what it extends. -/
theorem Climbs.cons {climbed rest interfaces above : List (Described V)} (hNew : type ∉ visited)
    (hHere : source.BreadthFirst Description.interfaceNames visited type
      ((type, description) :: interfaces))
    (hDescribed : ∀ owner ∈ climbed, source.describe owner.1 = some owner.2)
    (h : source.Climbs (interfaces.map Prod.fst ++ type :: visited) climbed rest above) :
    source.Climbs visited ((type, description) :: climbed) rest
      ((type, description) :: interfaces ++ above) := by
  have hVisited : ∀ {name}, name ∈ interfaces.map Prod.fst ++ type :: visited ↔
      name ∈ visited ∨ name ∈ ((type, description) :: interfaces).map Prod.fst := by
    intro name
    simp only [List.mem_append, List.mem_cons, List.map_cons]
    tauto
  refine ⟨?_, ?_, ?_, ?_⟩
  · -- none of the climbed classes was visited before, neither at first nor from the class below
    intro owner hOwner
    rcases List.mem_cons.mp hOwner with rfl | hUpper
    · exact hNew
    · exact fun hOld => h.new owner hUpper (hVisited.mpr (.inl hOld))
  · -- a type is visited from the class itself or from one that is climbed above it
    intro owner
    rw [List.mem_append, hHere.mem_iff, h.mem_iff, hVisited, not_or]
    constructor
    · rintro (⟨hSome, hOwner, hLeads⟩ | ⟨hSome, ⟨hOwner, -⟩, lower, hLower, hLeads⟩)
      · exact ⟨hSome, hOwner, _, List.mem_cons_self, hLeads⟩
      · exact ⟨hSome, hOwner, lower, List.mem_cons_of_mem _ hLower, hLeads⟩
    · rintro ⟨hSome, hOwner, lower, hLower, hLeads⟩
      by_cases hMet : owner.1 ∈ ((type, description) :: interfaces).map Prod.fst
      · -- the class or one of its interfaces, whatever else leads there
        obtain ⟨met, hMet, hSame⟩ := List.mem_map.mp hMet
        obtain ⟨-, -, hFrom⟩ := hHere.mem_iff.mp hMet
        exact .inl ⟨hSome, hOwner, hSame ▸ hFrom⟩
      · rcases List.mem_cons.mp hLower with rfl | hUpper
        · exact .inl ⟨hSome, hOwner, hLeads⟩
        · exact .inr ⟨hSome, ⟨hOwner, hMet⟩, lower, hUpper, hLeads⟩
  · refine List.pairwise_cons.mpr ⟨fun upper hUpper hLeads => ?_, h.apart⟩
    -- otherwise it would have been visited as an interface
    have hUpperNew := h.new upper hUpper
    rw [hVisited, not_or] at hUpperNew
    have hMet := hHere.mem_iff.mpr ⟨hDescribed upper hUpper, hUpperNew.1, hLeads⟩
    exact hUpperNew.2 (List.mem_map.mpr ⟨upper, hMet, rfl⟩)
  · intro barrier hBarrier
    -- what ended the climb above may be one of the interfaces that were met here
    rcases h.ended barrier hBarrier with hOld | ⟨lower, hLower, hLeads⟩
    · rcases hVisited.mp hOld with hOld | hMet
      · exact .inl hOld
      · obtain ⟨met, hMet, hSame⟩ := List.mem_map.mp hMet
        obtain ⟨-, -, hFrom⟩ := hHere.mem_iff.mp hMet
        exact .inr ⟨_, List.mem_cons_self, hSame ▸ hFrom⟩
    · exact .inr ⟨lower, List.mem_cons_of_mem _ hLower, hLeads⟩

/-- **The visited types are those that the climbed part of the chain leads to.** The chain itself may
go on, as far as its own classes have not been passed. -/
theorem climbs_methodOwners (hClosed : source.Closed Description.interfaceNames visited []) :
    ∀ {passed : List TypeName}, passed ⊆ visited →
      ∃ climbed rest, source.superclassChain passed type = climbed ++ rest ∧
        source.Climbs visited climbed rest (source.methodOwners visited type) := by
  -- the chain has passed no more classes than the climb, so it goes on wherever the climb does
  fun_induction source.methodOwners visited type with
  | case1 visited type hStop =>
    intro passed _
    refine ⟨[], source.superclassChain passed type, rfl, .none fun barrier hBarrier => ?_⟩
    rcases hStop with hRoot | hOld
    · rw [superclassChain_of_stop (.inl hRoot)] at hBarrier
      cases hBarrier
    · rw [superclassChain] at hBarrier
      split at hBarrier
      · cases hBarrier
      · split at hBarrier
        · cases hBarrier
        · cases hBarrier
          exact hOld
  | case2 visited type _ hNone =>
    intro passed _
    exact ⟨[], [], superclassChain_of_none hNone, .none (by simp)⟩
  | case3 visited type hGo description hSome interfaces ih =>
    intro passed hPassed
    obtain ⟨hOther, hNew⟩ := not_or.mp hGo
    have hHere : source.BreadthFirst Description.interfaceNames visited type
        (source.walk Description.interfaceNames visited [type]) := breadthFirst_walk hClosed
    rw [← cons_interfacesOf hNew hSome] at hHere
    have hOnward : ¬(type = .object ∨ type ∈ passed) :=
      not_or.mpr ⟨hOther, fun hOld => hNew (hPassed hOld)⟩
    have hChain := superclassChain_of_some hOnward hSome
    cases hSuperclass : description.superclassName? with
    | none =>
      rw [hSuperclass] at hChain
      exact ⟨[(type, description)], [], hChain, .cons hNew hHere (by simp) (.none (by simp))⟩
    | some superclass =>
      rw [hSuperclass] at hChain
      have hMore : type :: passed ⊆ interfaces.map Prod.fst ++ type :: visited :=
        List.cons_subset.mpr ⟨by simp, fun name hName =>
          List.mem_append_right _ (List.mem_cons_of_mem _ (hPassed hName))⟩
      obtain ⟨climbed, rest, hAbove, hClimbs⟩ := ih superclass (hClosed.interfacesOf hSome) hMore
      refine ⟨(type, description) :: climbed, rest, ?_, .cons hNew hHere ?_ hClimbs⟩
      · rw [hChain, List.cons_append, ← hAbove]
      · intro owner hOwner
        have hMember : owner ∈ source.superclassChain (type :: passed) superclass :=
          hAbove ▸ List.mem_append_left _ hOwner
        exact (of_mem_superclassChain hMember).1

end Introspect.Source
