import Introspect.Proofs.Hierarchy
import Introspect.Candidate

/-!
# Candidates, own and inherited

The candidates of a type are of different signatures, and those that the type declares itself come
before all that it inherits.

Main results:

* `nodup_signatures`: no signature is repeated among the candidates of a type.
* `exists_candidates_eq_append`: the type's own candidates, then those of other types.
* `signatureKey_congr`: getters of one name that return one erased type have the same signature.
-/

namespace Introspect

variable {V : Type}

section KeepFirst

variable {α : Type} {key : α → String} {seen : List String} {items : List α}

/-- What is kept has a key that was not seen before, and was there from the start. -/
theorem of_mem_keepFirst {item : α} (h : item ∈ keepFirst key seen items) :
    key item ∉ seen ∧ item ∈ items := by
  fun_induction keepFirst key seen items with
  | case1 => cases h
  | case2 seen first rest _ ih =>
    obtain ⟨hNew, hRest⟩ := ih h
    exact ⟨hNew, List.mem_cons_of_mem _ hRest⟩
  | case3 seen first rest hFirst ih =>
    rcases List.mem_cons.mp h with rfl | hLater
    · exact ⟨hFirst, List.mem_cons_self⟩
    · obtain ⟨hNew, hRest⟩ := ih hLater
      exact ⟨fun hSeen => hNew (List.mem_cons_of_mem _ hSeen), List.mem_cons_of_mem _ hRest⟩

/-- No two items that are kept have one key. -/
theorem nodup_keepFirst (key : α → String) (seen : List String) (items : List α) :
    ((keepFirst key seen items).map key).Nodup := by
  fun_induction keepFirst key seen items with
  | case1 => exact List.nodup_nil
  | case2 _ _ _ _ ih => exact ih
  | case3 seen first rest _ ih =>
    rw [List.map_cons, List.nodup_cons]
    refine ⟨?_, ih⟩
    -- whatever is kept later has another key than the first
    intro hAgain
    obtain ⟨item, hItem, hSame⟩ := List.mem_map.mp hAgain
    have hNew : key item ∉ key first :: seen := (of_mem_keepFirst hItem).1
    rw [hSame] at hNew
    exact hNew List.mem_cons_self

/-- Items in front are kept as if nothing came after them. -/
theorem exists_keepFirst_append (key : α → String) (seen : List String) (items more : List α) :
    ∃ later, keepFirst key seen (items ++ more) =
      keepFirst key seen items ++ keepFirst key later more := by
  -- what is kept of the items in front depends on nothing behind them
  fun_induction keepFirst key seen items with
  | case1 seen => exact ⟨seen, rfl⟩
  | case2 seen first rest hFirst ih =>
    obtain ⟨later, hLater⟩ := ih
    refine ⟨later, ?_⟩
    rw [List.cons_append, keepFirst, if_pos hFirst, hLater]
  | case3 seen first rest hFirst ih =>
    obtain ⟨later, hLater⟩ := ih
    refine ⟨later, ?_⟩
    rw [List.cons_append, keepFirst, if_neg hFirst, hLater, List.cons_append]

end KeepFirst

namespace Source

variable {source : Source V} {type : TypeName}

/-- No type is an owner of methods that was visited before. -/
theorem notMem_of_mem_methodOwners {visited : List TypeName} {owner : Described V}
    (h : owner ∈ source.methodOwners visited type) : owner.1 ∉ visited := by
  -- along the climb, which counts more types as visited with every class
  fun_induction source.methodOwners visited type with
  | case1 => cases h
  | case2 => cases h
  | case3 visited type hFresh description hType interfaces ih =>
    have hNew : type ∉ visited := (not_or.mp hFresh).2
    rcases List.mem_append.mp h with hHere | hAbove
    · rcases List.mem_cons.mp hHere with rfl | hInterface
      · exact hNew
      · have hOther : owner.1 ∉ type :: visited := (of_mem_walk hInterface).2.1
        exact fun hOld => hOther (List.mem_cons_of_mem _ hOld)
    · -- what the superclass leads to is new even among the interfaces
      cases hSuperclass : description.superclassName? with
      | none =>
        rw [hSuperclass] at hAbove
        cases hAbove
      | some superclass =>
        rw [hSuperclass] at hAbove
        have hOther := ih superclass hAbove
        exact fun hOld => hOther (List.mem_append_right _ (List.mem_cons_of_mem _ hOld))

/-- The type itself is the first owner of its methods, and never comes again. -/
theorem exists_methodOwners_eq_append (source : Source V) (type : TypeName) :
    ∃ here above, source.methodOwners [] type = here ++ above ∧
      (∀ owner ∈ here, owner.1 = type) ∧ ∀ owner ∈ above, owner.1 ≠ type := by
  rw [methodOwners]
  split
  · exact ⟨[], [], rfl, by simp, by simp⟩
  · split
    · exact ⟨[], [], rfl, by simp, by simp⟩
    · rename_i description hType
      refine ⟨[(type, description)], _, rfl, by simp, ?_⟩
      intro owner hOwner
      -- the type counts as visited for the interfaces and for the superclass
      rcases List.mem_append.mp hOwner with hInterface | hAbove
      · have hOther : owner.1 ∉ [type] := (of_mem_walk hInterface).2.1
        simpa using hOther
      · cases hSuperclass : description.superclassName? with
        | none =>
          rw [hSuperclass] at hAbove
          cases hAbove
        | some superclass =>
          rw [hSuperclass] at hAbove
          have hOther := notMem_of_mem_methodOwners hAbove
          rintro rfl
          exact hOther (List.mem_append_right _ List.mem_cons_self)

/-- A candidate stands in one of the descriptions that methods are taken from. -/
theorem declaring_of_mem_ownCandidates {owner : Described V} {candidate : Candidate V}
    (h : candidate ∈ ownCandidates owner) : candidate.declaring = owner.1 := by
  obtain ⟨method, -, rfl⟩ := List.mem_map.mp h
  rfl

/-- A candidate is one of the methods of a type that is visited. -/
theorem exists_owner_of_mem_candidates {candidate : Candidate V}
    (h : candidate ∈ source.candidates type) :
    ∃ owner ∈ source.methodOwners [] type, candidate ∈ ownCandidates owner :=
  List.mem_flatMap.mp (of_mem_keepFirst h).2

/-- Supertype references lead to the type that declares a candidate. -/
theorem leads_of_mem_candidates {candidate : Candidate V} (h : candidate ∈ source.candidates type) :
    Relation.ReflTransGen source.Extends type candidate.declaring := by
  obtain ⟨owner, hOwner, hOwn⟩ := exists_owner_of_mem_candidates h
  rw [declaring_of_mem_ownCandidates hOwn]
  exact (of_mem_methodOwners hOwner).2

/-- **Own candidates come first**, and all others are inherited. -/
theorem exists_candidates_eq_append (source : Source V) (type : TypeName) :
    ∃ own inherited, source.candidates type = own ++ inherited ∧
      (∀ candidate ∈ own, candidate.declaring = type) ∧
      ∀ candidate ∈ inherited, candidate.declaring ≠ type := by
  obtain ⟨here, above, hOwners, hHere, hAbove⟩ := exists_methodOwners_eq_append source type
  obtain ⟨later, hKept⟩ := exists_keepFirst_append (·.signatureKey source) []
    (here.flatMap ownCandidates) (above.flatMap ownCandidates)
  refine ⟨_, _, by rw [candidates, hOwners, List.flatMap_append, hKept], ?_, ?_⟩
  · intro candidate hCandidate
    obtain ⟨owner, hOwner, hOwn⟩ := List.mem_flatMap.mp (of_mem_keepFirst hCandidate).2
    rw [declaring_of_mem_ownCandidates hOwn]
    exact hHere owner hOwner
  · intro candidate hCandidate
    obtain ⟨owner, hOwner, hOwn⟩ := List.mem_flatMap.mp (of_mem_keepFirst hCandidate).2
    rw [declaring_of_mem_ownCandidates hOwn]
    exact hAbove owner hOwner

/-- No two candidates of a type have one signature. -/
theorem nodup_signatures (source : Source V) (type : TypeName) :
    ((source.candidates type).map (·.signatureKey source)).Nodup :=
  nodup_keepFirst _ _ _

/-- Getters of one name that return one erased type have the same signature. -/
theorem signatureKey_congr {candidate other : Candidate V}
    (hName : candidate.method.name = other.method.name)
    (hParameters : candidate.method.parameters = [])
    (hParameters' : other.method.parameters = [])
    (hReturns : candidate.method.returns?.isSome = true)
    (hReturns' : other.method.returns?.isSome = true)
    (hErased : candidate.erasedReturn source = other.erasedReturn source) :
    candidate.signatureKey source = other.signatureKey source := by
  obtain ⟨declared, hDeclared⟩ := Option.isSome_iff_exists.mp hReturns
  obtain ⟨declared', hDeclared'⟩ := Option.isSome_iff_exists.mp hReturns'
  -- without parameters, a name and a return type are all that a signature has
  have hNothing : candidate.erasedParameters source = [] := by
    rw [Candidate.erasedParameters, hParameters]
    rfl
  have hNothing' : other.erasedParameters source = [] := by
    rw [Candidate.erasedParameters, hParameters']
    rfl
  unfold Candidate.signatureKey
  rw [hNothing, hNothing', hName, hErased, hDeclared, hDeclared']

end Source

end Introspect
