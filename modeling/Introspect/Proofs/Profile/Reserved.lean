import Introspect.Proofs.Profile.Correspondence
import Introspect.Proofs.Profile.Discovery

/-!
# Accessors of reserved properties

A method that is named like an accessor of a reserved property is a candidate like any other, and is
kept out of the profile only when its claim has been settled. So it leaves no trace in a profile; but
two such methods may clash, and then there is no profile.

* `Source.withoutReserved` — the source without such methods.
* `Source.ReservedApart` — no such method has the signature of another method.

Main results:

* `candidates_withoutReserved` and `gather_filter`: what is left of the candidates and their claims.
* `reserved_names_inert`: without these methods a build ends as it does with them, unless they clash.
* `reserved_names_count`: two methods that read `class` clash, and a method of an odd name is hidden.
-/

namespace Introspect

variable {V : Type}

/-! ## Reserved accessors -/

/-- The name is that of an accessor of a reserved property, whatever the method takes and returns. -/
def Method.isReservedAccessor (method : Method V) : Bool :=
  (PropertyName.ofGetter? method.name true).any PropertyName.isReserved ||
    (PropertyName.ofSetter? method.name).any PropertyName.isReserved

/-- The description without accessors of reserved properties. -/
def Description.withoutReserved (description : Description V) : Description V :=
  { description with methods := description.methods.filter (!·.isReservedAccessor) }

/-- The candidate is no accessor of a reserved property. -/
def Candidate.isFree (candidate : Candidate V) : Bool := !candidate.method.isReservedAccessor

/-- Accessors of a reserved property are ambiguous. -/
def PropertyError.isReservedAmbiguity : PropertyError → Bool
  | .ambiguousGetter property .. => PropertyName.isReserved property
  | .ambiguousSetter property .. => PropertyName.isReserved property
  | _ => false

/-! ## Leaving items out -/

/-- Items that are left out hide none of the others, if their keys are different. -/
theorem keepFirst_filter {α : Type} {key : α → String} {keep : α → Bool} :
    ∀ {items : List α} {seen seen' : List String},
      (∀ item ∈ items, keep item = true → (key item ∈ seen' ↔ key item ∈ seen)) →
      (∀ item ∈ items, ∀ other ∈ items, keep item = false → keep other = true →
        key item ≠ key other) →
      keepFirst key seen' (items.filter keep) = (keepFirst key seen items).filter keep
  | [], _, _, _, _ => rfl
  | item :: rest, seen, seen', hSeen, hApart => by
    have hSeenRest : ∀ other ∈ rest, keep other = true → (key other ∈ seen' ↔ key other ∈ seen) :=
      fun other hOther => hSeen other (List.mem_cons_of_mem _ hOther)
    have hApartRest : ∀ first ∈ rest, ∀ other ∈ rest, keep first = false → keep other = true →
        key first ≠ key other :=
      fun first hFirst other hOther =>
        hApart first (List.mem_cons_of_mem _ hFirst) other (List.mem_cons_of_mem _ hOther)
    cases hKeep : keep item with
    | true =>
      -- an item that stays is hidden by what was seen before, and that is the same in both
      have hHere := hSeen item List.mem_cons_self hKeep
      rw [List.filter_cons_of_pos hKeep, keepFirst, keepFirst]
      by_cases hOld : key item ∈ seen
      · rw [if_pos hOld, if_pos (hHere.mpr hOld), keepFirst_filter hSeenRest hApartRest]
      · rw [if_neg hOld, if_neg (mt hHere.mp hOld), List.filter_cons_of_pos hKeep]
        congr 1
        refine keepFirst_filter (fun other hOther hOtherKeep => ?_) hApartRest
        rw [List.mem_cons, List.mem_cons, hSeenRest other hOther hOtherKeep]
    | false =>
      -- an item that is left out is seen only where it is met
      rw [List.filter_cons_of_neg (by simp [hKeep]), keepFirst]
      split
      · exact keepFirst_filter hSeenRest hApartRest
      · rw [List.filter_cons_of_neg (by simp [hKeep])]
        refine keepFirst_filter (fun other hOther hOtherKeep => ?_) hApartRest
        -- the key of what is left out is no key of what stays
        have hOtherKey : key other ≠ key item := (hApart item List.mem_cons_self other
          (List.mem_cons_of_mem _ hOther) hKeep hOtherKeep).symm
        rw [hSeenRest other hOther hOtherKeep, List.mem_cons, or_iff_right hOtherKey]

/-- Steps that are left out either changed nothing or ended the run. -/
theorem foldlM_filter {α β ε : Type} {step : α → β → Except ε α} {keep : β → Bool}
    {stops : ε → Prop} :
    ∀ {items : List β} {state : α},
      (∀ item ∈ items, keep item = false → ∀ state,
        step state item = .ok state ∨ ∃ cause, stops cause ∧ step state item = .error cause) →
      (items.filter keep).foldlM step state = items.foldlM step state ∨
        ∃ cause, stops cause ∧ items.foldlM step state = .error cause
  | [], _, _ => Or.inl rfl
  | item :: rest, state, hSkip => by
    have hRest : ∀ other ∈ rest, keep other = false → ∀ state,
        step state other = .ok state ∨ ∃ cause, stops cause ∧ step state other = .error cause :=
      fun other hOther => hSkip other (List.mem_cons_of_mem _ hOther)
    rw [List.foldlM_cons]
    cases hKeep : keep item with
    | true =>
      rw [List.filter_cons_of_pos hKeep, List.foldlM_cons]
      -- an item that stays is the same step in both runs
      cases step state item with
      | error cause => exact Or.inl rfl
      | ok next => exact foldlM_filter hRest
    | false =>
      rw [List.filter_cons_of_neg (by simp [hKeep])]
      -- one that is left out goes without a trace, or both runs are over
      rcases hSkip item List.mem_cons_self hKeep state with hSame | ⟨cause, hStops, hError⟩
      · rw [hSame]
        exact foldlM_filter hRest
      · rw [hError]
        exact Or.inr ⟨cause, hStops, rfl⟩

/-- Candidates of reserved properties make claims of their own, which go with them. -/
theorem Claim.gather_filter {property? : Candidate V → Option String}
    (hFree : ∀ {candidate name}, property? candidate = some name →
      candidate.isFree = !PropertyName.isReserved name) (candidates : List (Candidate V)) :
    gather property? (candidates.filter Candidate.isFree) =
      (gather property? candidates).filter (!PropertyName.isReserved ·.property) := by
  -- the properties that are claimed are the same, without the reserved ones
  have hProperties : (candidates.filter Candidate.isFree).filterMap property? =
      (candidates.filterMap property?).filter (!PropertyName.isReserved ·) := by
    induction candidates with
    | nil => rfl
    | cons candidate rest ih =>
      rw [List.filter_cons, List.filterMap_cons]
      cases hClaims : property? candidate with
      | none => split <;> simp [hClaims, ih]
      | some name =>
        rw [hFree hClaims, List.filter_cons]
        split <;> simp [hClaims, ih]
  unfold gather
  -- what is left are the names, each with the candidates that claim it
  rw [hProperties, ← filter_eraseDups]
  generalize (candidates.filterMap property?).eraseDups = names
  induction names with
  | nil => rfl
  | cons name rest ih =>
    cases hReserved : PropertyName.isReserved name with
    | true =>
      -- no candidate of a reserved name stays, so there is no claim for it
      rw [List.filter_cons_of_neg (by simp [hReserved]), ih, List.filterMap_cons]
      cases candidates.filter (property? · == some name) with
      | nil => rfl
      | cons first others => simp [hReserved]
    | false =>
      -- all candidates of the name stay
      have hSame : (candidates.filter Candidate.isFree).filter (property? · == some name) =
          candidates.filter (property? · == some name) := by
        rw [List.filter_filter]
        refine List.filter_congr fun candidate _ => ?_
        by_cases hClaims : property? candidate = some name
        · simp [hClaims, hFree hClaims, hReserved]
        · simp [beq_eq_false_iff_ne.mpr hClaims]
      rw [List.filter_cons_of_pos (by simp [hReserved]), List.filterMap_cons, hSame, ih,
        List.filterMap_cons]
      cases candidates.filter (property? · == some name) with
      | nil => rfl
      | cons first others => simp [hReserved]

namespace Source

variable {source : Source V} {type : TypeName}

/-- The source with every accessor of a reserved property left out. -/
def withoutReserved (source : Source V) : Source V where
  describe type := (source.describe type).map Description.withoutReserved
  known := source.known
  mem_known type h := source.mem_known type (by rwa [Option.isSome_map] at h)

/-- No accessor of a reserved property has the signature of a method that is none. -/
def ReservedApart (source : Source V) (type : TypeName) : Prop :=
  ∀ candidate ∈ (source.methodOwners [] type).flatMap ownCandidates,
    ∀ other ∈ (source.methodOwners [] type).flatMap ownCandidates,
      candidate.isFree = false → other.isFree = true →
        candidate.signatureKey source ≠ other.signatureKey source

/-! ## The same answers about types -/

/-- Kinds, references and parameters are as before. -/
theorem rescopes_withoutReserved (source : Source V) :
    source.Rescopes source.withoutReserved (fun _ => True)
      fun _ description => description.withoutReserved where
  describe_eq _ := rfl
  closed _ _ := trivial
  kind_eq _ _ := rfl
  superclass?_eq _ description := by rw [Option.map_id']; rfl
  interfaces_eq _ description := by rw [List.map_id']; rfl
  raw?_eq _ _ := rfl
  parameters_eq _ _ := rfl

theorem erase_withoutReserved (source : Source V) :
    source.withoutReserved.erase = source.erase := by
  funext declared declaring
  exact source.rescopes_withoutReserved.erase_eq trivial declared

theorem isAssignable_withoutReserved (source : Source V) :
    source.withoutReserved.isAssignable = source.isAssignable := by
  funext target sub
  exact source.rescopes_withoutReserved.isAssignable_eq trivial target

theorem memberType_withoutReserved (source : Source V) :
    source.withoutReserved.memberType = source.memberType := by
  funext declared declaring sub
  exact source.rescopes_withoutReserved.memberType_eq trivial trivial declared

theorem signatureKey_withoutReserved (candidate : Candidate V) :
    candidate.signatureKey source.withoutReserved = candidate.signatureKey source := by
  unfold Candidate.signatureKey Candidate.erasedReturn Candidate.erasedParameters
  rw [erase_withoutReserved]

/-- Candidates are getters of what they were getters of. -/
theorem getterProperty?_withoutReserved (source : Source V) :
    source.withoutReserved.getterProperty? = source.getterProperty? := by
  funext candidate
  unfold getterProperty? Candidate.erasedReturn
  rw [erase_withoutReserved]

/-- A claim of getters is settled as before. -/
theorem addGetter_withoutReserved (source : Source V) :
    source.withoutReserved.addGetter = source.addGetter := by
  have hBetter : source.withoutReserved.betterGetter = source.betterGetter := by
    funext held offered
    unfold betterGetter Candidate.erasedReturn
    rw [erase_withoutReserved, isAssignable_withoutReserved]
  funext type table claim
  unfold addGetter chooseGetter methodProperty
  rw [hBetter, memberType_withoutReserved]

/-- A claim of setters is settled as before. -/
theorem addSetter_withoutReserved (source : Source V) :
    source.withoutReserved.addSetter = source.addSetter := by
  have hBetter : source.withoutReserved.betterSetter = source.betterSetter := by
    funext held offered
    unfold betterSetter Candidate.erasedParameter Candidate.erasedParameters
    rw [erase_withoutReserved, isAssignable_withoutReserved]
  have hTakes : source.withoutReserved.takesType = source.takesType := by
    funext type? candidate
    unfold takesType Candidate.erasedParameter Candidate.erasedParameters
    rw [erase_withoutReserved]
  funext type getters table claim
  unfold addSetter chooseSetter narrowestSetter methodProperty
  rw [hBetter, hTakes, memberType_withoutReserved]

/-- The fields and what they back are the same. -/
theorem addFields_withoutReserved (source : Source V) :
    source.withoutReserved.addFields = source.addFields := by
  have hField : source.withoutReserved.addField = source.addField := by
    funext type table declared
    unfold addField fieldProperty
    rw [memberType_withoutReserved]
  unfold addFields
  rw [hField]

/-- The same fields are met along the chain. -/
theorem chainFields_withoutReserved (source : Source V) (type : TypeName) :
    source.withoutReserved.chainFields type = source.chainFields type := by
  unfold chainFields
  rw [source.rescopes_withoutReserved.superclassChain_eq trivial, List.flatMap_map]
  rfl

/-! ## Candidates and claims that are left -/

/-- A type has its free candidates. -/
theorem ownCandidates_withoutReserved (owner : Described V) :
    ownCandidates (redescribe (fun _ description => description.withoutReserved) owner) =
      (ownCandidates owner).filter Candidate.isFree := by
  unfold ownCandidates redescribe Description.withoutReserved
  rw [List.filter_map, List.filter_filter, List.filter_filter]
  refine congrArg (List.map _) (List.filter_congr fun method _ => ?_)
  exact Bool.and_comm ..

/-- **The free candidates are left.** -/
theorem candidates_withoutReserved (hApart : source.ReservedApart type) :
    source.withoutReserved.candidates type =
      (source.candidates type).filter Candidate.isFree := by
  unfold candidates
  rw [source.rescopes_withoutReserved.methodOwners_eq trivial, List.flatMap_map]
  simp only [ownCandidates_withoutReserved, signatureKey_withoutReserved]
  -- signatures are the same, so the free ones are hidden by free ones only
  rw [← List.filter_flatMap]
  exact keepFirst_filter (fun _ _ _ => Iff.rfl) hApart

/-- A getter is free when the property that it claims is not reserved. -/
theorem isFree_of_getterProperty? {candidate : Candidate V} {name : String}
    (h : source.getterProperty? candidate = some name) :
    candidate.isFree = !PropertyName.isReserved name := by
  unfold getterProperty? at h
  split at h
  · unfold Candidate.isFree Method.isReservedAccessor
    -- a method that is named like a getter is not named like a setter
    rw [PropertyName.ofGetter?_true h, PropertyName.ofSetter?_of_ofGetter? h]
    simp
  · cases h

/-- A setter is free when the property that it claims is not reserved. -/
theorem isFree_of_setterProperty? {candidate : Candidate V} {name : String}
    (h : setterProperty? candidate = some name) :
    candidate.isFree = !PropertyName.isReserved name := by
  unfold setterProperty? at h
  split at h
  -- a method that is named like a setter is not named like a getter
  · have hNoGetter : PropertyName.ofGetter? candidate.method.name true = none := by
      cases hGetter : PropertyName.ofGetter? candidate.method.name true with
      | none => rfl
      | some other =>
        rw [PropertyName.ofSetter?_of_ofGetter? hGetter] at h
        cases h
    unfold Candidate.isFree Method.isReservedAccessor
    rw [hNoGetter, h]
    simp
  · cases h

/-! ## Settling the claims -/

/-- A claim of a reserved property changes no table: it is settled for nothing, or ends the build. -/
theorem addGetter_reserved {claim : Claim V} (hReserved : PropertyName.isReserved claim.property = true)
    (table : Table V) :
    source.addGetter type table claim = .ok table ∨
      ∃ cause, cause.isReservedAmbiguity = true ∧
        source.addGetter type table claim = .error cause := by
  unfold addGetter
  cases source.chooseGetter claim with
  | error clash =>
    -- an error names the property of the claim
    exact Or.inr ⟨.ambiguousGetter .., hReserved, rfl⟩
  | ok winner =>
    -- the table takes in no reserved property
    refine Or.inl ?_
    cases hReturns : winner.method.returns? with
    | none => simp only [hReturns]
    | some declared => simp only [hReturns, addUnreserved, hReserved, cond_true]

/-- Setters of a reserved property change no table either. -/
theorem addSetter_reserved {claim : Claim V} (hReserved : PropertyName.isReserved claim.property = true)
    (getters table : Table V) :
    source.addSetter type getters table claim = .ok table ∨
      ∃ cause, cause.isReservedAmbiguity = true ∧
        source.addSetter type getters table claim = .error cause := by
  unfold addSetter
  cases source.chooseSetter (getterType? getters claim.property) claim with
  | error clash => exact Or.inr ⟨.ambiguousSetter .., hReserved, rfl⟩
  | ok winner =>
    -- whatever the winner takes, the table does not take it in
    refine Or.inl ?_
    cases hParameters : winner.method.parameters with
    | nil => simp only [hParameters]
    | cons declared rest => simp only [hParameters, addUnreserved, hReserved, cond_true]

/-- The getters end as before, unless some of a reserved property clash. -/
theorem methodGetters_withoutReserved (hApart : source.ReservedApart type) :
    source.withoutReserved.methodGetters type = source.methodGetters type ∨
      ∃ cause, cause.isReservedAmbiguity = true ∧ source.methodGetters type = .error cause := by
  unfold methodGetters getterClaims
  rw [candidates_withoutReserved hApart, getterProperty?_withoutReserved,
    Claim.gather_filter isFree_of_getterProperty?, addGetter_withoutReserved]
  refine foldlM_filter fun claim _ hReserved table => addGetter_reserved ?_ table
  simpa using hReserved

/-- The setters end as before, unless some of a reserved property clash. -/
theorem methodSetters_withoutReserved (hApart : source.ReservedApart type) (getters : Table V) :
    source.withoutReserved.methodSetters type getters = source.methodSetters type getters ∨
      ∃ cause, cause.isReservedAmbiguity = true ∧
        source.methodSetters type getters = .error cause := by
  unfold methodSetters setterClaims
  rw [candidates_withoutReserved hApart, Claim.gather_filter isFree_of_setterProperty?,
    addSetter_withoutReserved]
  refine foldlM_filter fun claim _ hReserved table => addSetter_reserved ?_ getters table
  simpa using hReserved

/-! ## Errors that are left -/

/-- Candidates that are left claim no reserved property. -/
theorem isReserved_of_mem_gather {property? : Candidate V → Option String}
    (hFree : ∀ {candidate name}, property? candidate = some name →
      candidate.isFree = !PropertyName.isReserved name) {candidates : List (Candidate V)}
    {claim : Claim V} (hClaim : claim ∈ Claim.gather property? (candidates.filter Candidate.isFree)) :
    PropertyName.isReserved claim.property = false := by
  rw [Claim.gather_filter hFree] at hClaim
  simpa using (List.mem_filter.mp hClaim).2

/-- Without accessors of reserved properties, none of them are ambiguous. -/
theorem isReservedAmbiguity_of_withoutReserved (hApart : source.ReservedApart type)
    {cause : PropertyError} (h : source.withoutReserved.profile type = .error cause) :
    cause.isReservedAmbiguity = false := by
  -- an error comes from a claim that is left
  rcases exists_clash_of_profile_error h with
    ⟨claim, hClaim, clash, -, rfl⟩ | ⟨getters, claim, hClaim, clash, -, rfl⟩
  · rw [getterClaims, candidates_withoutReserved hApart, getterProperty?_withoutReserved] at hClaim
    exact isReserved_of_mem_gather isFree_of_getterProperty? hClaim
  · rw [setterClaims, candidates_withoutReserved hApart] at hClaim
    exact isReserved_of_mem_gather isFree_of_setterProperty? hClaim

/-! ## The main result -/

/-- A build ends as before, unless accessors of a reserved property clash. -/
theorem profile_withoutReserved (hApart : source.ReservedApart type) :
    source.withoutReserved.profile type = source.profile type ∨
      ∃ cause, cause.isReservedAmbiguity = true ∧ source.profile type = .error cause := by
  cases hSome : source.describe type with
  | none =>
    have hNone : source.withoutReserved.describe type = none := by
      show (source.describe type).map _ = none
      rw [hSome]
      rfl
    refine Or.inl ?_
    unfold profile
    rw [hSome, hNone]
  | some description =>
    have hLeft : source.withoutReserved.describe type = some description.withoutReserved := by
      show (source.describe type).map _ = _
      rw [hSome]
      rfl
    have hConstructor : description.withoutReserved.constructor? = description.constructor? := rfl
    unfold profile
    rw [hSome, hLeft]
    dsimp only
    -- only what comes from methods may differ
    rw [chainFields_withoutReserved, addFields_withoutReserved, hConstructor]
    rcases methodGetters_withoutReserved hApart with hGetters | ⟨cause, hReserved, hGetters⟩
    · -- the getters are the same, and so it depends on the setters
      rw [hGetters]
      cases source.methodGetters type with
      | error cause =>
        refine Or.inl ?_
        simp only [bind, Except.bind]
      | ok getters =>
        rcases methodSetters_withoutReserved hApart getters with
          hSetters | ⟨cause, hReserved, hSetters⟩
        · refine Or.inl ?_
          simp only [bind, Except.bind, hSetters]
        · simp only [bind, Except.bind, hSetters]
          exact Or.inr ⟨cause, hReserved, rfl⟩
    · -- some getters clash, and then there is no profile to compare
      rw [hGetters]
      exact Or.inr ⟨cause, hReserved, rfl⟩

/--
**Accessors of reserved properties leave no trace in a profile.** Leave all of them out, where none
has the signature of another method. The build then ends as it does with them, with the same error or
the same profile, unless they clash: it does so exactly when the build with them does not fail because
accessors of a reserved property are ambiguous.
-/
theorem reserved_names_inert (hApart : source.ReservedApart type) :
    source.withoutReserved.profile type = source.profile type ↔
      ∀ cause, source.profile type = .error cause → cause.isReservedAmbiguity = false := by
  constructor
  · -- the error without them is no such ambiguity, so the one with them is none
    intro hSame cause hError
    rw [← hSame] at hError
    exact isReservedAmbiguity_of_withoutReserved hApart hError
  · intro hFree
    rcases profile_withoutReserved hApart with hSame | ⟨cause, hReserved, hError⟩
    · exact hSame
    · rw [hFree cause hError] at hReserved
      cases hReserved

/-- Whether signatures are apart can be found out by comparing each with each. -/
theorem reservedApart_of_all
    (h : (((source.methodOwners [] type).flatMap ownCandidates).all fun candidate =>
      ((source.methodOwners [] type).flatMap ownCandidates).all fun other =>
        candidate.isFree || !other.isFree ||
          candidate.signatureKey source != other.signatureKey source) = true) :
    source.ReservedApart type := by
  intro candidate hCandidate other hOther hReserved hFree
  have hTest := List.all_eq_true.mp (List.all_eq_true.mp h candidate hCandidate) other hOther
  simpa [hReserved, hFree] using hTest

/-- An order has a class that is read, and its profile is the same without. -/
theorem reserved_names_inert_order :
    Sample.shop.ReservedApart Sample.order ∧
      Sample.shop.withoutReserved.profile Sample.order = .ok Sample.orderProfile := by
  have hApart : Sample.shop.ReservedApart Sample.order := reservedApart_of_all (by cbv)
  refine ⟨hApart, ((reserved_names_inert hApart).mpr ?_).trans Sample.profile_order⟩
  intro cause hError
  rw [Sample.profile_order] at hError
  cases hError

end Source

/-! ## A sample -/

namespace Sample

def memo : TypeName := ⟨"Memo"⟩

def classified : TypeName := ⟨"Classified"⟩

def odd : TypeName := ⟨"Odd"⟩

/-- A memo says what class it is of, and so does the interface that it implements, with a number. Of
an odd type two methods have one signature, as it is spelled out. -/
def classes : Source Value :=
  (Catalog.mk
    [{ Description.plain classified .contract with methods := [method "getClass" (some ⟨"i64"⟩) []] },
      { Description.plain memo .concrete with
        interfaces := [.named classified]
        methods := [method "getClass" (some ⟨"String"⟩) [], method "getTitle" (some ⟨"String"⟩) []] },
      { Description.plain odd .concrete with
        methods := [method "getClass" (some ⟨"T#getA"⟩) [],
          method "getA#getClass" (some ⟨"T"⟩) []] }]).toSource

end Sample

namespace Source

/-- A memo cannot be built because of its class, which has no business in a profile; and of an odd
type a property is missing for the same reason. Without the class both are there. -/
theorem reserved_names_count :
    Sample.classes.profile Sample.memo =
        .error (.ambiguousGetter "class" Sample.memo ⟨"String"⟩ ⟨"i64"⟩) ∧
      (Sample.classes.withoutReserved.profile Sample.memo).isOk = true ∧
      (Sample.profileOf Sample.classes Sample.odd).has .getter "a#getClass" = false ∧
      (Sample.profileOf Sample.classes.withoutReserved Sample.odd).has .getter "a#getClass" =
        true := by
  refine ⟨by cbv, by cbv, by cbv, by cbv⟩

end Source

end Introspect
