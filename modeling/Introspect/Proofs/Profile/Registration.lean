import Introspect.Proofs.Profile.Discovery

/-!
# Methods and the properties they back

A method that claims a name is never passed over: unless the name is reserved, one of the methods
that claim it backs the property. What a method reads is known to those that settle who writes.

* `Source.gettersOf` and `Source.settersOf` — the candidates of one property.

Main results:

* `Makes.exists_readsBy` and `Makes.exists_writesBy`: a claim of a method is settled, and its winner
  backs the property.
* `Makes.find?_getters`: a property that a method reads is among the getters.
* `exists_clash_of_profile`: a build that ends with ambiguous getters has a claim that is not settled.
-/

namespace Introspect

variable {V : Type} {source : Source V} {type : TypeName}

namespace Source

/-! ## The candidates of a property -/

/-- The candidates that read a property, in the order in which they were met. -/
def gettersOf (source : Source V) (type : TypeName) (name : String) : List (Candidate V) :=
  (source.candidates type).filter (source.getterProperty? · == some name)

/-- The candidates that write a property, in the order in which they were met. -/
def settersOf (source : Source V) (type : TypeName) (name : String) : List (Candidate V) :=
  (source.candidates type).filter (setterProperty? · == some name)

theorem mem_gettersOf {name : String} {candidate : Candidate V} :
    candidate ∈ source.gettersOf type name ↔
      candidate ∈ source.candidates type ∧ candidate.Reads source name := by
  rw [gettersOf, List.mem_filter, beq_iff_eq, getterProperty?_eq_some_iff]

theorem mem_settersOf {name : String} {candidate : Candidate V} :
    candidate ∈ source.settersOf type name ↔
      candidate ∈ source.candidates type ∧ candidate.Writes name := by
  rw [settersOf, List.mem_filter, beq_iff_eq, setterProperty?_eq_some_iff]

/-! ## Winners are registered -/

section Parts

variable {property? : Candidate V → Option String} {candidates : List (Candidate V)}
  {backs : Claim V → Property V → Prop} {settled : List (String × Property V)}
  {fields : List (TypeName × Field V)} {table : Table V} {name : String}

/-- A name that a candidate claims is backed by the winner of its claim, and by no field. -/
theorem exists_backs_of_parts
    (hSettled : List.Forall₂ (fun claim pair => pair.1 = claim.property ∧ backs claim pair.2)
      (Claim.gather property? candidates) settled)
    (hTable : table.Lists (unreserved (settled ++ source.fieldPairs type fields)))
    (hFree : PropertyName.isReserved name = false) {candidate : Candidate V}
    (hCandidate : candidate ∈ candidates) (hClaims : property? candidate = some name) :
    ∃ claim ∈ Claim.gather property? candidates, claim.property = name ∧
      ∃ property, backs claim property ∧ table.find? name = some property := by
  -- the name is held, so something stands under it, and a field only where no method claims it
  have hHeld : table.contains name = true :=
    (contains_of_parts hSettled hTable).mpr ⟨hFree, Or.inl ⟨candidate, hCandidate, hClaims⟩⟩
  obtain ⟨property, hFound⟩ := Option.isSome_iff_exists.mp hHeld
  rcases backed_of_parts hSettled hTable hFound with ⟨claim, hClaim, hName, hBacks⟩ | ⟨hNone, -⟩
  · exact ⟨claim, hClaim, hName, property, hBacks, hFound⟩
  · exact absurd hClaims (hNone candidate hCandidate)

end Parts

namespace Makes

variable {profile : Profile V} {getters : Table V} {readers writers : List (String × Property V)}
  {name : String} {candidate : Candidate V}

/-- What is registered has a name that is not reserved. -/
theorem free_of_find?_readable (h : source.Makes type profile getters readers writers)
    {property : Property V} (hFound : profile.readable.find? name = some property) :
    PropertyName.isReserved name = false := by
  have hHeld : profile.readable.contains name = true := by rw [Table.contains, hFound]; rfl
  exact ((contains_of_parts h.readers_settled h.readable_lists).mp hHeld).1

/-- The winner among the getters of a name is registered. -/
theorem exists_readsBy (h : source.Makes type profile getters readers writers)
    (hFree : PropertyName.isReserved name = false) (hGetter : candidate ∈ source.gettersOf type name) :
    ∃ claim : Claim V, claim.property = name ∧ claim.candidates = source.gettersOf type name ∧
      ∃ property, source.ReadsBy type claim property ∧
        profile.readable.find? name = some property := by
  obtain ⟨hCandidate, hReads⟩ := mem_gettersOf.mp hGetter
  obtain ⟨claim, hClaim, rfl, hBacked⟩ := exists_backs_of_parts h.readers_settled h.readable_lists
    hFree hCandidate (getterProperty?_eq_some_iff.mpr hReads)
  exact ⟨claim, rfl, Claim.mem_gather hClaim, hBacked⟩

/-- The winner among the setters of a name is registered. -/
theorem exists_writesBy (h : source.Makes type profile getters readers writers)
    (hFree : PropertyName.isReserved name = false) (hSetter : candidate ∈ source.settersOf type name) :
    ∃ claim : Claim V, claim.property = name ∧ claim.candidates = source.settersOf type name ∧
      ∃ property, source.WritesBy type getters claim property ∧
        profile.writable.find? name = some property := by
  obtain ⟨hCandidate, hWrites⟩ := mem_settersOf.mp hSetter
  obtain ⟨claim, hClaim, rfl, hBacked⟩ := exists_backs_of_parts h.writers_settled h.writable_lists
    hFree hCandidate (setterProperty?_eq_some_iff.mpr hWrites)
  exact ⟨claim, rfl, Claim.mem_gather hClaim, hBacked⟩

/-- A property that is read by a method was registered before any field was looked at. -/
theorem find?_getters (h : source.Makes type profile getters readers writers)
    {getter : Property V} (hFound : profile.readable.find? name = some getter)
    (hMethod : getter.accessor.isField = false) : getters.find? name = some getter := by
  rw [h.readable_lists.find?_eq, unreserved_append, List.lookup_append,
    ← h.getters_lists.find?_eq, Option.or_eq_some_iff] at hFound
  rcases hFound with hGetter | ⟨-, hField⟩
  · exact hGetter
  · -- whatever a field backs is reached through a field
    rw [List.lookup_eq_some_iff] at hField
    obtain ⟨before, after, hPairs, -⟩ := hField
    have hMember : (name, getter) ∈ source.fieldPairs type (source.chainFields type) := by
      refine List.mem_of_mem_filter (p := fun pair => !PropertyName.isReserved pair.1) ?_
      show (name, getter) ∈ unreserved (source.fieldPairs type (source.chainFields type))
      rw [hPairs]
      exact List.mem_append_right _ List.mem_cons_self
    obtain ⟨declared, -, hPair⟩ := List.mem_map.mp hMember
    obtain ⟨-, rfl⟩ := Prod.mk.inj hPair
    cases hMethod

end Makes

/-! ## Claims that are not settled -/

/-- Getters are ambiguous only where those of one property clash. -/
theorem exists_clash_of_profile {name : String} {declaring first second : TypeName}
    (h : source.profile type = .error (.ambiguousGetter name declaring first second)) :
    ∃ claim : Claim V, claim.property = name ∧ claim.candidates = source.gettersOf type name ∧
      source.chooseGetter claim = .error ⟨declaring, first, second⟩ := by
  rcases exists_clash_of_profile_error h with
    ⟨claim, hClaim, clash, hClash, hCause⟩ | ⟨getters, claim, -, clash, -, hCause⟩
  · obtain ⟨rfl, rfl, rfl, rfl⟩ := PropertyError.ambiguousGetter.inj hCause
    exact ⟨claim, rfl, Claim.mem_gather hClaim, hClash⟩
  · -- setters are never reported as ambiguous getters
    cases hCause

end Source

end Introspect
