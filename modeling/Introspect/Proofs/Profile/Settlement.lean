import Introspect.Proofs.Profile.Table
import Mathlib.Data.List.Forall2

/-!
# Settled claims

Candidates are gathered into claims, one for each property in the order of the first candidates.
Each claim is settled for one of its own candidates, and the properties that the winners back are
listed in the order of the claims.

Main results:

* `map_property_gather` and `mem_gather`: which claims there are, and whose candidates they hold.
* `invariant_of_foldlM`: what each step of a run keeps holds at its end.
* `chooseGetter_mem` and `chooseSetter_mem`: only a candidate of the claim wins.
* `methodGetters_lists` and `methodSetters_lists`: what the tables of methods list.
* `exists_clash_of_profile_error`: what keeps a profile from being built.
-/

namespace Introspect

variable {V : Type}

/-! ## Gathering -/

namespace Claim

variable {property? : Candidate V → Option String} {candidates : List (Candidate V)}

/-- Every property that a candidate claims has a claim. -/
theorem map_property_gather (property? : Candidate V → Option String)
    (candidates : List (Candidate V)) :
    (gather property? candidates).map Claim.property =
      (candidates.filterMap property?).eraseDups := by
  unfold gather
  -- no property is dropped for want of candidates
  have hClaimed : ∀ property ∈ (candidates.filterMap property?).eraseDups,
      candidates.filter (property? · == some property) ≠ [] := by
    intro property hProperty
    rw [List.mem_eraseDups, List.mem_filterMap] at hProperty
    obtain ⟨candidate, hCandidate, hClaim⟩ := hProperty
    refine List.ne_nil_of_mem (a := candidate) (List.mem_filter.mpr ⟨hCandidate, ?_⟩)
    rw [hClaim]
    exact beq_self_eq_true _
  -- from here on only that matters about the properties, and not how they were found
  generalize (candidates.filterMap property?).eraseDups = properties at hClaimed
  induction properties with
  | nil => rfl
  | cons property rest ih =>
    have hRest := ih fun other hOther => hClaimed other (List.mem_cons_of_mem _ hOther)
    cases hFilter : candidates.filter (property? · == some property) with
    | nil => exact absurd hFilter (hClaimed property List.mem_cons_self)
    | cons first others =>
      rw [List.filterMap_cons_some (b := ⟨property, first, others⟩) (by simp only [hFilter])]
      rw [List.map_cons, hRest]

/-- A claim holds the candidates of its property, in the order in which they were met. -/
theorem mem_gather {claim : Claim V} (h : claim ∈ gather property? candidates) :
    claim.candidates = candidates.filter (property? · == some claim.property) := by
  obtain ⟨property, -, hClaim⟩ := List.mem_filterMap.mp h
  split at hClaim
  · cases hClaim
  · rename_i first rest hFilter
    cases hClaim
    exact hFilter.symm

/-- There is one claim for a property at most. -/
theorem nodup_gather (property? : Candidate V → Option String)
    (candidates : List (Candidate V)) :
    ((gather property? candidates).map Claim.property).Nodup := by
  rw [map_property_gather]
  exact nodup_eraseDups _

/-- The candidates of a claim are among all candidates and claim its property. -/
theorem of_mem_gather {claim : Claim V} (h : claim ∈ gather property? candidates)
    {candidate : Candidate V} (hMember : candidate ∈ claim.candidates) :
    candidate ∈ candidates ∧ property? candidate = some claim.property := by
  rw [mem_gather h, List.mem_filter] at hMember
  exact ⟨hMember.1, beq_iff_eq.mp hMember.2⟩

end Claim

/-! ## Winners -/

/-- What holds of a state and the items met so far holds at the end of a run, if each step keeps it. -/
theorem invariant_of_foldlM {α β ε : Type} {step : α → β → Except ε α}
    (Holds : List β → α → Prop)
    (hStep : ∀ {met item state next}, Holds met state → step state item = .ok next →
      Holds (met ++ [item]) next) :
    ∀ {rest met : List β} {state final : α}, Holds met state →
      rest.foldlM step state = .ok final → Holds (met ++ rest) final
  -- by the items still to come, each of which moves to those that were met
  | [], met, state, final, hHolds, h => by
    cases h
    rwa [List.append_nil]
  | item :: rest, met, state, final, hHolds, h => by
    rw [List.foldlM_cons] at h
    cases hNext : step state item with
    | error cause =>
      rw [hNext] at h
      cases h
    | ok next =>
      rw [hNext] at h
      have hAll := invariant_of_foldlM Holds hStep (hStep hHolds hNext) h
      rwa [List.append_assoc] at hAll

/-- Who wins a series of comparisons was one of those compared. -/
theorem mem_of_foldlM {α ε : Type} {better : α → α → Except ε α}
    (hBetter : ∀ {held offered kept}, better held offered = .ok kept →
      kept = held ∨ kept = offered)
    {rest : List α} {first winner : α} (h : rest.foldlM better first = .ok winner) :
    winner ∈ first :: rest := by
  refine invariant_of_foldlM (fun met held => held ∈ met) ?_ (List.mem_singleton_self first) h
  intro met offered held kept hHeld hKept
  rcases hBetter hKept with rfl | rfl
  · exact List.mem_append_left _ hHeld
  · simp

namespace Source

variable {source : Source V} {claim : Claim V} {winner : Candidate V}

/-- Of two getters one is kept. -/
theorem betterGetter_eq {held offered kept : Candidate V}
    (h : source.betterGetter held offered = .ok kept) : kept = held ∨ kept = offered := by
  unfold betterGetter at h
  dsimp only at h
  split at h
  · -- they return the same type, so whether it is a flag and how they are named decides
    split at h
    · split at h <;> cases h
      · exact Or.inr rfl
      · exact Or.inl rfl
    · cases h
  · -- the types differ, so the narrower one decides if either is
    split at h
    · cases h
      exact Or.inl rfl
    · split at h
      · cases h
        exact Or.inr rfl
      · cases h

/-- Of two setters one is kept. -/
theorem betterSetter_eq {held offered kept : Candidate V}
    (h : source.betterSetter held offered = .ok kept) : kept = held ∨ kept = offered := by
  unfold betterSetter at h
  dsimp only at h
  split at h
  · cases h
    exact Or.inr rfl
  · split at h
    · cases h
      exact Or.inl rfl
    · cases h

/-- The winner among the getters of a claim is one of them. -/
theorem chooseGetter_mem (h : source.chooseGetter claim = .ok winner) :
    winner ∈ claim.candidates :=
  mem_of_foldlM betterGetter_eq h

/-- The winner among the setters of a claim is one of them. -/
theorem chooseSetter_mem {getterType? : Option TypeName}
    (h : source.chooseSetter getterType? claim = .ok winner) : winner ∈ claim.candidates := by
  unfold chooseSetter at h
  split at h
  · rename_i candidate hFound
    cases h
    exact List.mem_of_find?_eq_some hFound
  · exact mem_of_foldlM betterSetter_eq h

end Source

/-! ## Tables of settled claims -/

/-- Settling claims of different properties one after the other lists what backs them, in order. -/
theorem Table.Lists.settle {backs : Claim V → Property V → Prop}
    {add : Table V → Claim V → Except PropertyError (Table V)} :
    ∀ {claims : List (Claim V)} {table after : Table V} {pairs : List (String × Property V)},
      table.Lists (unreserved pairs) →
      (∀ claim ∈ claims, ∀ table after, add table claim = .ok after →
        ∃ property, backs claim property ∧
          after = Source.addUnreserved table claim.property property) →
      (pairs.map Prod.fst ++ claims.map Claim.property).Nodup →
      claims.foldlM add table = .ok after →
      ∃ settled : List (String × Property V),
        List.Forall₂ (fun claim pair => pair.1 = claim.property ∧ backs claim pair.2)
          claims settled ∧
        after.Lists (unreserved (pairs ++ settled))
  -- by the claims still to come, with the pairs for what was settled before
  | [], table, after, pairs, hTable, _, _, hFold => by
    cases hFold
    exact ⟨[], List.Forall₂.nil, by simpa using hTable⟩
  | claim :: rest, table, after, pairs, hTable, hAdd, hNodup, hFold => by
    rw [List.foldlM_cons] at hFold
    cases hNext : add table claim with
    | error cause =>
      rw [hNext] at hFold
      cases hFold
    | ok next =>
      rw [hNext] at hFold
      obtain ⟨property, hBacks, rfl⟩ := hAdd claim List.mem_cons_self table next hNext
      -- a claim that was settled before is one of another property
      have hNew : table.contains claim.property = false := by
        rw [Bool.eq_false_iff, Ne, hTable.contains_iff]
        intro hHeld
        obtain ⟨pair, hPair, hName⟩ := List.mem_map.mp hHeld
        have hDone : claim.property ∈ pairs.map Prod.fst :=
          hName ▸ List.mem_map_of_mem (List.mem_of_mem_filter hPair)
        rw [List.map_cons, List.nodup_append] at hNodup
        exact hNodup.2.2 _ hDone _ List.mem_cons_self rfl
      -- the settled claim moves from the claims to the pairs; the names are the same as before
      have hDistinct : ((pairs ++ [(claim.property, property)]).map Prod.fst ++
          rest.map Claim.property).Nodup := by
        simpa using hNodup
      obtain ⟨settled, hSettled, hAfter⟩ := Table.Lists.settle
        (hTable.addUnreserved hNew property)
        (fun other hOther => hAdd other (List.mem_cons_of_mem _ hOther)) hDistinct hFold
      refine ⟨(claim.property, property) :: settled,
        List.Forall₂.cons ⟨rfl, hBacks⟩ hSettled, ?_⟩
      rwa [List.append_assoc] at hAfter

namespace Source

variable {source : Source V} {type : TypeName}

/-- The property is the one that the winner of its claim to be read backs. -/
def ReadsBy (source : Source V) (type : TypeName) (claim : Claim V) (property : Property V) :
    Prop :=
  ∃ winner declared, source.chooseGetter claim = .ok winner ∧
    winner.method.returns? = some declared ∧
    property = source.methodProperty type winner declared

/-- The property is the one that the winner of its claim to be written backs. -/
def WritesBy (source : Source V) (type : TypeName) (getters : Table V) (claim : Claim V)
    (property : Property V) : Prop :=
  ∃ winner declared,
    source.chooseSetter (getterType? getters claim.property) claim = .ok winner ∧
    winner.method.parameters = [declared] ∧
    property = source.methodProperty type winner declared

/-- What is read by a getter is what the getter returns. -/
theorem getterProperty?_isSome {candidate : Candidate V} {property : String}
    (h : source.getterProperty? candidate = some property) :
    ∃ declared, candidate.method.returns? = some declared := by
  unfold getterProperty? at h
  split at h
  · rename_i hShape
    rw [Bool.and_eq_true] at hShape
    exact Option.isSome_iff_exists.mp hShape.2
  · cases h

/-- What is written by a setter is what the setter takes. -/
theorem setterProperty?_parameters {candidate : Candidate V} {property : String}
    (h : setterProperty? candidate = some property) :
    ∃ declared, candidate.method.parameters = [declared] := by
  unfold setterProperty? at h
  split at h
  · rename_i hLength
    exact List.length_eq_one_iff.mp hLength
  · cases h

/-- What methods read is listed claim by claim. -/
theorem methodGetters_lists {getters : Table V} (h : source.methodGetters type = .ok getters) :
    ∃ settled,
      List.Forall₂ (fun claim pair => pair.1 = claim.property ∧ source.ReadsBy type claim pair.2)
        (source.getterClaims (source.candidates type)) settled ∧
      getters.Lists (unreserved settled) := by
  have hEmpty : (Table.empty : Table V).Lists (unreserved []) := Table.lists_empty
  refine hEmpty.settle ?_ (Claim.nodup_gather _ _) h
  intro claim hClaim table after hAdd
  unfold addGetter at hAdd
  cases hWinner : source.chooseGetter claim with
  | error clash =>
    rw [hWinner] at hAdd
    cases hAdd
  | ok winner =>
    -- the winner is a getter, so it cannot be passed over for want of a type
    have hClaims := (Claim.of_mem_gather hClaim (chooseGetter_mem hWinner)).2
    obtain ⟨declared, hReturns⟩ := getterProperty?_isSome hClaims
    simp only [hWinner, hReturns, Except.ok.injEq] at hAdd
    exact ⟨_, ⟨winner, declared, hWinner, hReturns, rfl⟩, hAdd.symm⟩

/-- What methods write is listed claim by claim. -/
theorem methodSetters_lists {getters setters : Table V}
    (h : source.methodSetters type getters = .ok setters) :
    ∃ settled,
      List.Forall₂
        (fun claim pair => pair.1 = claim.property ∧ source.WritesBy type getters claim pair.2)
        (setterClaims (source.candidates type)) settled ∧
      setters.Lists (unreserved settled) := by
  have hEmpty : (Table.empty : Table V).Lists (unreserved []) := Table.lists_empty
  refine hEmpty.settle ?_ (Claim.nodup_gather _ _) h
  intro claim hClaim table after hAdd
  unfold addSetter at hAdd
  cases hWinner : source.chooseSetter (getterType? getters claim.property) claim with
  | error clash =>
    rw [hWinner] at hAdd
    cases hAdd
  | ok winner =>
    -- the winner is a setter, so it cannot be passed over for want of a parameter
    have hClaims := (Claim.of_mem_gather hClaim (chooseSetter_mem hWinner)).2
    obtain ⟨declared, hParameters⟩ := setterProperty?_parameters hClaims
    simp only [hWinner, hParameters, Except.ok.injEq] at hAdd
    exact ⟨_, ⟨winner, declared, hWinner, hParameters, rfl⟩, hAdd.symm⟩

/-! ## Builds that fail -/

/-- A run of steps fails with what the first step that fails has to say. -/
theorem foldlM_eq_error_iff {α β ε : Type} {step : α → β → Except ε α} {cause : ε} :
    ∀ {items : List β} {start : α},
      items.foldlM step start = .error cause ↔
        ∃ before item after state, items = before ++ item :: after ∧
          before.foldlM step start = .ok state ∧ step state item = .error cause
  | [], start => by
    constructor
    · intro h
      cases h
    · rintro ⟨before, item, after, state, hItems, -⟩
      simp at hItems
  | first :: rest, start => by
    rw [List.foldlM_cons]
    cases hFirst : step start first with
    | error other =>
      constructor
      · intro h
        exact ⟨[], first, rest, start, rfl, rfl, hFirst.trans h⟩
      · rintro ⟨before, item, after, state, hItems, hState, hItem⟩
        cases before with
        -- the step that fails is the first one, or stands among the rest
        | nil =>
          obtain ⟨rfl, -⟩ := List.cons.inj hItems
          cases hState
          exact hFirst.symm.trans hItem
        | cons head before =>
          -- no step is reached behind the one that fails
          obtain ⟨rfl, -⟩ := List.cons.inj hItems
          rw [List.foldlM_cons, hFirst] at hState
          cases hState
    | ok reached =>
      show rest.foldlM step reached = .error cause ↔ _
      rw [foldlM_eq_error_iff]
      constructor
      · rintro ⟨before, item, after, state, hItems, hState, hItem⟩
        refine ⟨first :: before, item, after, state, by rw [hItems]; rfl, ?_, hItem⟩
        rw [List.foldlM_cons, hFirst]
        exact hState
      · rintro ⟨before, item, after, state, hItems, hState, hItem⟩
        cases before with
        | nil =>
          obtain ⟨rfl, -⟩ := List.cons.inj hItems
          cases hState
          rw [hFirst] at hItem
          cases hItem
        | cons head before =>
          obtain ⟨rfl, hRest⟩ := List.cons.inj hItems
          rw [List.foldlM_cons, hFirst] at hState
          exact ⟨before, item, after, state, hRest, hState, hItem⟩

/-- Where claims cannot be settled, one of them cannot. -/
theorem exists_of_foldlM_error {α β ε : Type} {add : α → β → Except ε α} {cause : ε}
    {items : List β} {state : α} (h : items.foldlM add state = .error cause) :
    ∃ item ∈ items, ∃ before, add before item = .error cause := by
  obtain ⟨settled, item, left, before, rfl, -, hFails⟩ := foldlM_eq_error_iff.mp h
  exact ⟨item, List.mem_append_right _ List.mem_cons_self, before, hFails⟩

/-- A claim to be read is not settled only where its getters clash. -/
theorem exists_clash_of_addGetter {table : Table V} {claim : Claim V} {cause : PropertyError}
    (h : source.addGetter type table claim = .error cause) :
    ∃ clash, source.chooseGetter claim = .error clash ∧
      cause = .ambiguousGetter claim.property clash.declaring clash.first clash.second := by
  unfold addGetter at h
  split at h
  · rename_i clash hClash
    cases h
    exact ⟨clash, hClash, rfl⟩
  · split at h <;> cases h

/-- A claim to be written is not settled only where its setters clash. -/
theorem exists_clash_of_addSetter {getters table : Table V} {claim : Claim V} {cause : PropertyError}
    (h : source.addSetter type getters table claim = .error cause) :
    ∃ clash, source.chooseSetter (getterType? getters claim.property) claim = .error clash ∧
      cause = .ambiguousSetter claim.property clash.declaring clash.first clash.second := by
  unfold addSetter at h
  split at h
  · rename_i clash hClash
    cases h
    exact ⟨clash, hClash, rfl⟩
  · split at h <;> cases h

/-- Fields never fail, so a build fails in one of its two passes over the methods. -/
theorem methods_error_of_profile {cause : PropertyError} (h : source.profile type = .error cause) :
    source.methodGetters type = .error cause ∨
      ∃ getters, source.methodGetters type = .ok getters ∧
        source.methodSetters type getters = .error cause := by
  unfold Source.profile at h
  split at h
  · -- nothing is described, and the profile is empty
    cases h
  · cases hGetters : source.methodGetters type with
    | error other =>
      rw [hGetters] at h
      cases h
      exact Or.inl rfl
    | ok getters =>
      rw [hGetters] at h
      cases hSetters : source.methodSetters type getters with
      | error other =>
        simp only [bind, Except.bind, hSetters] at h
        cases h
        exact Or.inr ⟨getters, rfl, hSetters⟩
      | ok setters =>
        simp only [bind, Except.bind, hSetters] at h
        cases h

/-- **Only an ambiguity keeps a profile from being built**: a claim whose candidates clash. -/
theorem exists_clash_of_profile_error {cause : PropertyError}
    (h : source.profile type = .error cause) :
    (∃ claim ∈ source.getterClaims (source.candidates type), ∃ clash,
      source.chooseGetter claim = .error clash ∧
        cause = .ambiguousGetter claim.property clash.declaring clash.first clash.second) ∨
    ∃ getters : Table V, ∃ claim ∈ setterClaims (source.candidates type), ∃ clash,
      source.chooseSetter (getterType? getters claim.property) claim = .error clash ∧
        cause = .ambiguousSetter claim.property clash.declaring clash.first clash.second := by
  rcases methods_error_of_profile h with hGetters | ⟨getters, -, hSetters⟩
  · obtain ⟨claim, hClaim, table, hAdd⟩ := exists_of_foldlM_error hGetters
    exact Or.inl ⟨claim, hClaim, exists_clash_of_addGetter hAdd⟩
  · obtain ⟨claim, hClaim, table, hAdd⟩ := exists_of_foldlM_error hSetters
    exact Or.inr ⟨getters, claim, hClaim, exists_clash_of_addSetter hAdd⟩

/-- A build that fails does so for an ambiguity. -/
theorem isAmbiguous_of_profile {cause : PropertyError} (h : source.profile type = .error cause) :
    cause.isAmbiguous = true := by
  rcases exists_clash_of_profile_error h with
    ⟨claim, -, clash, -, rfl⟩ | ⟨getters, claim, -, clash, -, rfl⟩
  · rfl
  · rfl

end Source

end Introspect
