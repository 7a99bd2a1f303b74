import Introspect.Proofs.Candidate
import Introspect.Proofs.Redescription
import Introspect.Proofs.Profile.Alike
import Introspect.Proofs.Profile.Settlement

/-!
# Builds that go through the same members

One hierarchy may be described twice, with members whose types are written differently. If the types
are erased to the same ones, a build takes the same course in both: it meets the same candidates,
settles the same claims in the same way, and fails at the same clash if it fails. What it ends with
differs at most in the types of properties.

* `Source.Declares` — a method of a type declares a type expression.
* `Source.Resolves` — a build has to find out what a declared type stands for.
* `Retypes` — the members of one source are those of another, their types rewritten.

Main results:

* `Retypes.candidates_eq` and `Retypes.chainFields_eq`: the same methods and fields are met.
* `Retypes.chooseGetter_eq` and `Retypes.chooseSetter_eq`: the same candidates win.
* `Retypes.profile_alike`: builds end alike.
-/

namespace Introspect

variable {V : Type}

/-! ## Members with other types -/

/-- The types that a method declares: what it returns, then what it takes. -/
def Method.types (method : Method V) : List TypeExpr := method.returns?.toList ++ method.parameters

/-- The method with its types rewritten. -/
def Method.mapTypes (f : TypeExpr → TypeExpr) (method : Method V) : Method V :=
  { method with returns? := method.returns?.map f, parameters := method.parameters.map f }

/-- The field with its type rewritten. -/
def Field.mapType (f : TypeExpr → TypeExpr) (field : Field V) : Field V :=
  { field with type := f field.type }

/-- The candidate with its types rewritten as in the type that declares it. -/
def Candidate.mapTypes (rewrite : TypeName → TypeExpr → TypeExpr) (candidate : Candidate V) :
    Candidate V :=
  ⟨candidate.declaring, candidate.method.mapTypes (rewrite candidate.declaring)⟩

/-- The claim with its candidates replaced. -/
def Claim.map (f : Candidate V → Candidate V) (claim : Claim V) : Claim V :=
  ⟨claim.property, f claim.first, claim.rest.map f⟩

theorem Claim.candidates_map (f : Candidate V → Candidate V) (claim : Claim V) :
    (claim.map f).candidates = claim.candidates.map f := rfl

theorem Method.mem_types_of_returns {method : Method V} {declared : TypeExpr}
    (h : method.returns? = some declared) : declared ∈ method.types := by
  rw [types, h]
  exact List.mem_append_left _ (List.mem_singleton_self _)

theorem Method.mem_types_of_parameter {method : Method V} {declared : TypeExpr}
    (h : declared ∈ method.parameters) : declared ∈ method.types :=
  List.mem_append_right _ h

/-! ## Items of equal keys -/

/-- The first item of every key is kept, whatever else is done to the items. -/
theorem keepFirst_map {α β : Type} {key : α → String} {key' : β → String} {f : α → β} :
    ∀ {seen : List String} {items : List α}, (∀ item ∈ items, key' (f item) = key item) →
      keepFirst key' seen (items.map f) = (keepFirst key seen items).map f
  | seen, [], _ => rfl
  -- the rest is treated alike whether or not the first item is kept
  | seen, item :: rest, h => by
    have hRest : ∀ other ∈ rest, key' (f other) = key other :=
      fun other hOther => h other (List.mem_cons_of_mem _ hOther)
    rw [List.map_cons, keepFirst, keepFirst, h item List.mem_cons_self, keepFirst_map hRest,
      keepFirst_map hRest]
    split
    · rfl
    · rfl

/-- Candidates that claim the same properties are gathered into the same claims. -/
theorem Claim.gather_map {property? property?' : Candidate V → Option String}
    {f : Candidate V → Candidate V} {candidates : List (Candidate V)}
    (h : ∀ candidate ∈ candidates, property?' (f candidate) = property? candidate) :
    gather property?' (candidates.map f) = (gather property? candidates).map (Claim.map f) := by
  unfold gather
  rw [List.filterMap_map, List.map_filterMap]
  have hProperties : candidates.filterMap (property?' ∘ f) = candidates.filterMap property? :=
    List.filterMap_congr h
  rw [hProperties]
  congr 1
  funext property
  -- a claim holds the candidates of its property, and those are found by what they claim
  have hSame : (candidates.map f).filter (property?' · == some property) =
      (candidates.filter (property? · == some property)).map f := by
    rw [List.filter_map]
    congr 1
    exact List.filter_congr fun candidate hCandidate => by rw [Function.comp, h candidate hCandidate]
  rw [hSame]
  cases candidates.filter (property? · == some property) with
  | nil => rfl
  | cons first rest => rfl

/-- Comparisons that end the same way have the same winner. -/
theorem foldlM_map_eq {α ε : Type} {better better' : α → α → Except ε α} {f : α → α}
    {fair : α → Prop}
    (hBetter : ∀ held offered, fair held → fair offered →
      better' (f held) (f offered) = (better held offered).map f)
    (hKept : ∀ {held offered kept}, better held offered = .ok kept → kept = held ∨ kept = offered) :
    ∀ {rest : List α} {first : α}, fair first → (∀ other ∈ rest, fair other) →
      (rest.map f).foldlM better' (f first) = (rest.foldlM better first).map f
  | [], first, _, _ => rfl
  | offered :: rest, first, hFirst, hRest => by
    have hOffered : fair offered := hRest offered List.mem_cons_self
    rw [List.map_cons, List.foldlM_cons, List.foldlM_cons, hBetter first offered hFirst hOffered]
    cases hNext : better first offered with
    | error clash => rfl
    | ok kept =>
      -- the one that goes on was one of the two, so it is fair as well
      have hFair : fair kept := by
        rcases hKept hNext with rfl | rfl
        · exact hFirst
        · exact hOffered
      exact foldlM_map_eq hBetter hKept hFair
        fun other hOther => hRest other (List.mem_cons_of_mem _ hOther)

namespace Source

variable {source target : Source V} {within : TypeName → Prop}
  {change : TypeName → Description V → Description V} {rewrite : TypeName → TypeExpr → TypeExpr}
  {type : TypeName}

/-- A method of a type declares a type expression, as what it returns or as what it takes. -/
def Declares (source : Source V) (owner : TypeName) (declared : TypeExpr) : Prop :=
  ∃ description, source.describe owner = some description ∧
    ∃ method ∈ description.methods, declared ∈ method.types

/-- The build of a type has to find out what a declared type stands for: that of a candidate method
or that of a field of the chain. -/
def Resolves (source : Source V) (type declaring : TypeName) (declared : TypeExpr) : Prop :=
  (∃ candidate ∈ source.candidates type,
    candidate.declaring = declaring ∧ declared ∈ candidate.method.types) ∨
  ∃ field ∈ source.chainFields type, field.1 = declaring ∧ field.2.type = declared

/-- What a candidate declares, its type declares. -/
theorem declares_of_mem_ownCandidates {owner : Described V} {candidate : Candidate V}
    {declared : TypeExpr} (hOwner : source.describe owner.1 = some owner.2)
    (hCandidate : candidate ∈ ownCandidates owner) (hDeclared : declared ∈ candidate.method.types) :
    source.Declares candidate.declaring declared := by
  obtain ⟨method, hMethod, rfl⟩ := List.mem_map.mp hCandidate
  exact ⟨owner.2, hOwner, method, List.mem_of_mem_filter hMethod, hDeclared⟩

/-- The members of `target` are those of `source`, in a hierarchy that is the same for the types of a
set. Types of members are rewritten, in a way that changes no erased type; and no erased type leaves
the set. -/
structure Retypes (source target : Source V) (within : TypeName → Prop)
    (change : TypeName → Description V → Description V)
    (rewrite : TypeName → TypeExpr → TypeExpr) : Prop
    extends source.Redescribes target within change rewrite where
  methods_eq : ∀ type description,
    (change type description).methods = description.methods.map (Method.mapTypes (rewrite type))
  fields_eq : ∀ type description,
    (change type description).fields = description.fields.map (Field.mapType (rewrite type))
  constructor?_eq : ∀ type description,
    (change type description).constructor? = description.constructor?
  erase_eq : ∀ {owner declared}, within owner → source.Declares owner declared →
    target.erase (rewrite owner declared) owner = source.erase declared owner
  within_erase : ∀ {owner declared}, within owner → source.Declares owner declared →
    within (source.erase declared owner)

/-- A field of a chain, with its type rewritten as in the type that declares it. -/
def retypeField (rewrite : TypeName → TypeExpr → TypeExpr) (declared : TypeName × Field V) :
    TypeName × Field V :=
  (declared.1, declared.2.mapType (rewrite declared.1))

namespace Retypes

/-! ## Candidates -/

/-- The candidate stands in a type of the set. -/
def Fair (source : Source V) (within : TypeName → Prop) (candidate : Candidate V) : Prop :=
  within candidate.declaring ∧
    ∀ declared ∈ candidate.method.types, source.Declares candidate.declaring declared

/-- What stands in a type that a build visits is fair, since references do not leave the set. -/
theorem fair_of_mem_ownCandidates (h : source.Retypes target within change rewrite)
    (hType : within type) {owner : Described V} (hOwner : owner ∈ source.methodOwners [] type)
    {candidate : Candidate V} (hCandidate : candidate ∈ ownCandidates owner) :
    Fair source within candidate := by
  obtain ⟨hDescribed, hLeads⟩ := of_mem_methodOwners hOwner
  refine ⟨?_, fun declared hDeclared =>
    declares_of_mem_ownCandidates hDescribed hCandidate hDeclared⟩
  rw [declaring_of_mem_ownCandidates hCandidate]
  exact h.within_of_reflTransGen hType hLeads

/-- All candidates of a build are fair. -/
theorem fair_of_mem_candidates (h : source.Retypes target within change rewrite)
    (hType : within type) {candidate : Candidate V} (hCandidate : candidate ∈ source.candidates type) :
    Fair source within candidate := by
  obtain ⟨owner, hOwner, hOwn⟩ := exists_owner_of_mem_candidates hCandidate
  exact h.fair_of_mem_ownCandidates hType hOwner hOwn

section Erasure

variable {candidate : Candidate V}

/-- What a candidate returns is erased to the same type. -/
theorem erasedReturn_eq (h : source.Retypes target within change rewrite)
    (hFair : Fair source within candidate) :
    (candidate.mapTypes rewrite).erasedReturn target = candidate.erasedReturn source := by
  unfold Candidate.erasedReturn Candidate.mapTypes Method.mapTypes
  cases hReturns : candidate.method.returns? with
  | none => rfl
  | some declared =>
    exact h.erase_eq hFair.1 (hFair.2 declared (Method.mem_types_of_returns hReturns))

/-- What a candidate takes is erased to the same types. -/
theorem erasedParameters_eq (h : source.Retypes target within change rewrite)
    (hFair : Fair source within candidate) :
    (candidate.mapTypes rewrite).erasedParameters target = candidate.erasedParameters source := by
  unfold Candidate.erasedParameters Candidate.mapTypes Method.mapTypes
  -- each parameter for itself
  rw [List.map_map]
  refine List.map_congr_left fun declared hDeclared => ?_
  exact h.erase_eq hFair.1 (hFair.2 declared (Method.mem_types_of_parameter hDeclared))

/-- The first parameter is erased to the same type. -/
theorem erasedParameter_eq (h : source.Retypes target within change rewrite)
    (hFair : Fair source within candidate) :
    (candidate.mapTypes rewrite).erasedParameter target = candidate.erasedParameter source := by
  unfold Candidate.erasedParameter
  rw [h.erasedParameters_eq hFair]

/-- So the signatures are the same. -/
theorem signatureKey_eq (h : source.Retypes target within change rewrite)
    (hFair : Fair source within candidate) :
    (candidate.mapTypes rewrite).signatureKey target = candidate.signatureKey source := by
  unfold Candidate.signatureKey
  rw [h.erasedReturn_eq hFair, h.erasedParameters_eq hFair]
  unfold Candidate.mapTypes Method.mapTypes
  cases candidate.method.returns? with
  | none => rfl
  | some declared => rfl

/-- The erased type of what a candidate returns is one of the set. -/
theorem within_erasedReturn (h : source.Retypes target within change rewrite)
    (hFair : Fair source within candidate) {declared : TypeExpr}
    (hReturns : candidate.method.returns? = some declared) :
    within (candidate.erasedReturn source) := by
  have hErased : candidate.erasedReturn source = source.erase declared candidate.declaring := by
    rw [Candidate.erasedReturn, hReturns]
  rw [hErased]
  exact h.within_erase hFair.1 (hFair.2 declared (Method.mem_types_of_returns hReturns))

/-- The erased type of what a setter takes is one of the set. -/
theorem within_erasedParameter (h : source.Retypes target within change rewrite)
    (hFair : Fair source within candidate) {declared : TypeExpr}
    (hParameters : candidate.method.parameters = [declared]) :
    within (candidate.erasedParameter source) := by
  have hErased : candidate.erasedParameter source = source.erase declared candidate.declaring := by
    rw [Candidate.erasedParameter, Candidate.erasedParameters, hParameters]
    rfl
  rw [hErased]
  refine h.within_erase hFair.1 (hFair.2 declared (Method.mem_types_of_parameter ?_))
  rw [hParameters]
  exact List.mem_singleton_self _

end Erasure

/-- A type has the same candidates, but for the types they declare. -/
theorem ownCandidates_redescribe (h : source.Retypes target within change rewrite)
    (owner : Described V) :
    ownCandidates (redescribe change owner) =
      (ownCandidates owner).map (Candidate.mapTypes rewrite) := by
  unfold ownCandidates redescribe
  rw [h.methods_eq, List.filter_map, List.map_map, List.map_map]
  rfl

/-- **The same candidates are met**, in the same order. -/
theorem candidates_eq (h : source.Retypes target within change rewrite) (hType : within type) :
    target.candidates type = (source.candidates type).map (Candidate.mapTypes rewrite) := by
  unfold candidates
  -- the same types are visited, and each adds its candidates
  rw [h.methodOwners_eq hType, List.flatMap_map]
  simp only [h.ownCandidates_redescribe]
  rw [← List.map_flatMap]
  -- the first candidate of each signature is kept, and signatures are the same
  refine keepFirst_map fun candidate hCandidate => ?_
  obtain ⟨owner, hOwner, hOwn⟩ := List.mem_flatMap.mp hCandidate
  exact h.signatureKey_eq (h.fair_of_mem_ownCandidates hType hOwner hOwn)

/-! ## Claims -/

/-- A candidate is a getter of the same property. -/
theorem getterProperty?_eq (h : source.Retypes target within change rewrite)
    {candidate : Candidate V} (hFair : Fair source within candidate) :
    target.getterProperty? (candidate.mapTypes rewrite) = source.getterProperty? candidate := by
  unfold getterProperty?
  -- what it returns is asked for `is` getters only, and it is erased
  rw [h.erasedReturn_eq hFair]
  unfold Candidate.mapTypes Method.mapTypes
  rw [List.isEmpty_map, Option.isSome_map]

/-- A candidate is a setter of the same property. -/
theorem setterProperty?_mapTypes (rewrite : TypeName → TypeExpr → TypeExpr)
    (candidate : Candidate V) :
    setterProperty? (candidate.mapTypes rewrite) = setterProperty? candidate := by
  unfold setterProperty? Candidate.mapTypes Method.mapTypes
  rw [List.length_map]

/-- The same getters claim the same properties. -/
theorem getterClaims_eq (h : source.Retypes target within change rewrite) (hType : within type) :
    target.getterClaims (target.candidates type) =
      (source.getterClaims (source.candidates type)).map (Claim.map (Candidate.mapTypes rewrite)) := by
  unfold getterClaims
  rw [h.candidates_eq hType]
  exact Claim.gather_map fun candidate hCandidate =>
    h.getterProperty?_eq (h.fair_of_mem_candidates hType hCandidate)

/-- The same setters claim the same properties. -/
theorem setterClaims_eq (h : source.Retypes target within change rewrite) (hType : within type) :
    setterClaims (target.candidates type) =
      (setterClaims (source.candidates type)).map (Claim.map (Candidate.mapTypes rewrite)) := by
  unfold setterClaims
  rw [h.candidates_eq hType]
  exact Claim.gather_map fun candidate _ => setterProperty?_mapTypes rewrite candidate

/-! ## Winners -/

/-- Of two getters the same one is better. -/
theorem betterGetter_map (h : source.Retypes target within change rewrite)
    {held offered : Candidate V} (hHeld : Fair source within held)
    (hOffered : Fair source within offered) (hHeldReturns : held.method.returns?.isSome = true)
    (hOfferedReturns : offered.method.returns?.isSome = true) :
    target.betterGetter (held.mapTypes rewrite) (offered.mapTypes rewrite) =
      (source.betterGetter held offered).map (Candidate.mapTypes rewrite) := by
  obtain ⟨_, hHeldReturns⟩ := Option.isSome_iff_exists.mp hHeldReturns
  obtain ⟨_, hOfferedReturns⟩ := Option.isSome_iff_exists.mp hOfferedReturns
  unfold betterGetter
  -- the comparison is about erased types alone, and the hierarchies above them are the same
  rw [h.erasedReturn_eq hHeld, h.erasedReturn_eq hOffered]
  dsimp only
  rw [h.isAssignable_eq (h.within_erasedReturn hHeld hHeldReturns),
    h.isAssignable_eq (h.within_erasedReturn hOffered hOfferedReturns)]
  split
  · -- one type is assignable to the other
    split
    · exact congrArg Except.ok (apply_ite (Candidate.mapTypes rewrite) _ _ _).symm
    · rfl
  · split
    · rfl
    · split
      · rfl
      · rfl

/-- Of two setters the same one is better. -/
theorem betterSetter_map (h : source.Retypes target within change rewrite)
    {held offered : Candidate V} (hHeld : Fair source within held)
    (hOffered : Fair source within offered) (hHeldTakes : held.method.parameters.length = 1)
    (hOfferedTakes : offered.method.parameters.length = 1) :
    target.betterSetter (held.mapTypes rewrite) (offered.mapTypes rewrite) =
      (source.betterSetter held offered).map (Candidate.mapTypes rewrite) := by
  obtain ⟨_, hHeldTakes⟩ := List.length_eq_one_iff.mp hHeldTakes
  obtain ⟨_, hOfferedTakes⟩ := List.length_eq_one_iff.mp hOfferedTakes
  unfold betterSetter
  -- again only erased types are compared
  rw [h.erasedParameter_eq hHeld, h.erasedParameter_eq hOffered]
  dsimp only
  rw [h.isAssignable_eq (h.within_erasedParameter hHeld hHeldTakes),
    h.isAssignable_eq (h.within_erasedParameter hOffered hOfferedTakes)]
  split
  · rfl
  · split
    · rfl
    · rfl

/-- **The same getter wins**, or the same getters clash. -/
theorem chooseGetter_eq (h : source.Retypes target within change rewrite) (hType : within type)
    {claim : Claim V} (hClaim : claim ∈ source.getterClaims (source.candidates type)) :
    target.chooseGetter (claim.map (Candidate.mapTypes rewrite)) =
      (source.chooseGetter claim).map (Candidate.mapTypes rewrite) := by
  have hFair : ∀ candidate ∈ claim.candidates,
      Fair source within candidate ∧ candidate.method.returns?.isSome = true := by
    intro candidate hMember
    obtain ⟨hCandidate, hClaims⟩ := Claim.of_mem_gather hClaim hMember
    obtain ⟨declared, hReturns⟩ := getterProperty?_isSome hClaims
    exact ⟨h.fair_of_mem_candidates hType hCandidate, by rw [hReturns]; rfl⟩
  exact foldlM_map_eq (fun held offered hHeld hOffered =>
      h.betterGetter_map hHeld.1 hOffered.1 hHeld.2 hOffered.2)
    betterGetter_eq (hFair claim.first List.mem_cons_self)
    fun other hOther => hFair other (List.mem_cons_of_mem _ hOther)

/-- **The same setter wins**, or the same setters clash. -/
theorem chooseSetter_eq (h : source.Retypes target within change rewrite) (hType : within type)
    (getterType? : Option TypeName) {claim : Claim V}
    (hClaim : claim ∈ setterClaims (source.candidates type)) :
    target.chooseSetter getterType? (claim.map (Candidate.mapTypes rewrite)) =
      (source.chooseSetter getterType? claim).map (Candidate.mapTypes rewrite) := by
  have hFair : ∀ candidate ∈ claim.candidates,
      Fair source within candidate ∧ candidate.method.parameters.length = 1 := by
    intro candidate hMember
    obtain ⟨hCandidate, hClaims⟩ := Claim.of_mem_gather hClaim hMember
    obtain ⟨declared, hParameters⟩ := setterProperty?_parameters hClaims
    exact ⟨h.fair_of_mem_candidates hType hCandidate, by rw [hParameters]; rfl⟩
  -- a setter of exactly the type of the getter is the first of its kind in both
  have hExact : (claim.map (Candidate.mapTypes rewrite)).candidates.find?
        (target.takesType getterType?) =
      (claim.candidates.find? (source.takesType getterType?)).map (Candidate.mapTypes rewrite) := by
    rw [Claim.candidates_map, List.find?_map]
    rw [← List.head?_filter, ← List.head?_filter]
    refine congrArg (Option.map _ <| List.head? ·) (List.filter_congr fun candidate hMember => ?_)
    unfold takesType
    rw [Function.comp, h.erasedParameter_eq (hFair candidate hMember).1]
  unfold chooseSetter
  rw [hExact]
  cases claim.candidates.find? (source.takesType getterType?) with
  | some candidate => rfl
  | none =>
    exact foldlM_map_eq (fun held offered hHeld hOffered =>
        h.betterSetter_map hHeld.1 hOffered.1 hHeld.2 hOffered.2)
      betterSetter_eq (hFair claim.first List.mem_cons_self)
      fun other hOther => hFair other (List.mem_cons_of_mem _ hOther)

/-! ## Fields -/

/-- **The same fields are met**, in the same order. -/
theorem chainFields_eq (h : source.Retypes target within change rewrite) (hType : within type) :
    target.chainFields type = (source.chainFields type).map (retypeField rewrite) := by
  unfold chainFields
  rw [h.superclassChain_eq hType, List.flatMap_map, List.map_flatMap]
  refine congrArg (List.flatMap · _) (funext fun owner => ?_)
  unfold redescribe
  rw [h.fields_eq, List.map_map, List.map_map]
  rfl

/-! ## Builds -/

section Builds

variable {same : TypeExpr → TypeExpr → Prop} {table other getters getters' : Table V}
  {claim : Claim V}

/-- What the two sources see of the members that a build resolves is related. -/
def Sees (source target : Source V) (rewrite : TypeName → TypeExpr → TypeExpr) (type : TypeName)
    (same : TypeExpr → TypeExpr → Prop) : Prop :=
  ∀ {declaring declared}, source.Resolves type declaring declared →
    same (source.memberType declared declaring type)
      (target.memberType (rewrite declaring declared) declaring type)

/-- A property that is backed by a method is the same, but for its type. -/
theorem Sees.methodProperty (hSees : Sees source target rewrite type same)
    {candidate : Candidate V} (hCandidate : candidate ∈ source.candidates type)
    {declared : TypeExpr} (hDeclared : declared ∈ candidate.method.types) :
    (source.methodProperty type candidate declared).Alike same
      (target.methodProperty type (candidate.mapTypes rewrite)
        (rewrite candidate.declaring declared)) :=
  ⟨rfl, hSees (Or.inl ⟨candidate, hCandidate, rfl, hDeclared⟩)⟩

/-- A property that is backed by a field is the same, but for its type. -/
theorem Sees.fieldProperty (hSees : Sees source target rewrite type same)
    {declared : TypeName × Field V} (hDeclared : declared ∈ source.chainFields type) :
    (source.fieldProperty type declared).Alike same
      (target.fieldProperty type (retypeField rewrite declared)) :=
  ⟨rfl, hSees (Or.inr ⟨declared, hDeclared, rfl, rfl⟩)⟩

/-- One claim of getters is settled alike. -/
theorem addGetter_alike (h : source.Retypes target within change rewrite) (hType : within type)
    (hSees : Sees source target rewrite type same)
    (hClaim : claim ∈ source.getterClaims (source.candidates type))
    (hTable : table.Alike same other) :
    SameOutcome (Table.Alike same) (source.addGetter type table claim)
      (target.addGetter type other (claim.map (Candidate.mapTypes rewrite))) := by
  unfold addGetter
  rw [h.chooseGetter_eq hType hClaim]
  cases hWinner : source.chooseGetter claim with
  | error clash => exact .error _
  | ok winner =>
    obtain ⟨hCandidate, hClaims⟩ := Claim.of_mem_gather hClaim (chooseGetter_mem hWinner)
    obtain ⟨declared, hReturns⟩ := getterProperty?_isSome hClaims
    -- the winner declares what it returns, and that is resolved
    simp only [Except.map, Candidate.mapTypes, Method.mapTypes, hReturns, Option.map_some]
    exact .ok (hTable.addUnreserved _
      (hSees.methodProperty hCandidate (Method.mem_types_of_returns hReturns)))

/-- One claim of setters is settled alike. -/
theorem addSetter_alike (h : source.Retypes target within change rewrite) (hType : within type)
    (hSees : Sees source target rewrite type same)
    (hGetters : ∀ name, getterType? getters' name = getterType? getters name)
    (hClaim : claim ∈ setterClaims (source.candidates type)) (hTable : table.Alike same other) :
    SameOutcome (Table.Alike same) (source.addSetter type getters table claim)
      (target.addSetter type getters' other (claim.map (Candidate.mapTypes rewrite))) := by
  unfold addSetter
  rw [show (claim.map (Candidate.mapTypes rewrite)).property = claim.property from rfl,
    hGetters, h.chooseSetter_eq hType _ hClaim]
  cases hWinner : source.chooseSetter (getterType? getters claim.property) claim with
  | error clash => exact .error _
  | ok winner =>
    obtain ⟨hCandidate, hClaims⟩ := Claim.of_mem_gather hClaim (chooseSetter_mem hWinner)
    obtain ⟨declared, hParameters⟩ := setterProperty?_parameters hClaims
    -- the winner takes one value, and its type is resolved
    simp only [Except.map, Candidate.mapTypes, Method.mapTypes, hParameters, List.map_cons]
    refine .ok (hTable.addUnreserved _ (hSees.methodProperty hCandidate
      (Method.mem_types_of_parameter ?_)))
    rw [hParameters]
    exact List.mem_singleton_self _

/-- All claims of getters are settled alike, one after the other. -/
theorem methodGetters_alike (h : source.Retypes target within change rewrite)
    (hType : within type) (hSees : Sees source target rewrite type same) :
    SameOutcome (Table.Alike same) (source.methodGetters type) (target.methodGetters type) := by
  unfold methodGetters
  rw [h.getterClaims_eq hType]
  exact SameOutcome.foldlM Table.alike_empty fun claim hClaim _ _ hTable =>
    h.addGetter_alike hType hSees hClaim hTable

/-- All claims of setters are settled alike, as far as they know the getters. -/
theorem methodSetters_alike (h : source.Retypes target within change rewrite)
    (hType : within type) (hSees : Sees source target rewrite type same)
    (hGetters : ∀ name, getterType? getters' name = getterType? getters name) :
    SameOutcome (Table.Alike same) (source.methodSetters type getters)
      (target.methodSetters type getters') := by
  unfold methodSetters
  rw [h.setterClaims_eq hType]
  exact SameOutcome.foldlM Table.alike_empty fun claim hClaim _ _ hTable =>
    h.addSetter_alike hType hSees hGetters hClaim hTable

/-- Fields are added to tables that are alike. -/
theorem addFields_alike (h : source.Retypes target within change rewrite) (hType : within type)
    (hSees : Sees source target rewrite type same) (hTable : table.Alike same other) :
    (source.addFields type table (source.chainFields type)).Alike same
      (target.addFields type other (target.chainFields type)) := by
  rw [h.chainFields_eq hType]
  exact hTable.addFields (fun _ _ => rfl) fun _ hDeclared => hSees.fieldProperty hDeclared

/-- Fields that can be written are added to tables that are alike. -/
theorem addWritableFields_alike (h : source.Retypes target within change rewrite)
    (hType : within type) (hSees : Sees source target rewrite type same)
    (hTable : table.Alike same other) :
    (source.addFields type table ((source.chainFields type).filter (isWritableField ·.2))).Alike
      same
      (target.addFields type other ((target.chainFields type).filter (isWritableField ·.2))) := by
  rw [h.chainFields_eq hType, List.filter_map]
  exact hTable.addFields (fun _ _ => rfl) fun _ hDeclared =>
    hSees.fieldProperty (List.mem_of_mem_filter hDeclared)

/-- **Builds end alike**: with the same error, or with profiles that list the same properties, reached
in the same way. -/
theorem profile_alike (h : source.Retypes target within change rewrite) (hType : within type)
    (hSees : Sees source target rewrite type same)
    (hValue : ∀ seen seen', same seen seen' → seen'.valueType = seen.valueType) :
    SameOutcome (Profile.Alike same) (source.profile type) (target.profile type) := by
  unfold profile
  cases hSome : source.describe type with
  | none =>
    -- nothing is described in the other source either
    rw [h.describe_none hType hSome]
    exact .ok (Profile.alike_empty type)
  | some description =>
    rw [h.describe_some hType hSome]
    refine (h.methodGetters_alike hType hSees).bind fun getters getters' hGetters => ?_
    -- what a getter returns is all that the setters learn from it
    have hReturned : ∀ name, getterType? getters' name = getterType? getters name := by
      intro name
      have hFound := hGetters.find? name
      unfold getterType?
      generalize getters.find? name = found, getters'.find? name = found' at hFound
      cases hFound with
      | none => rfl
      | some hAlike => exact congrArg some (hValue _ _ hAlike.type_same)
    refine (h.methodSetters_alike hType hSees hReturned).bind fun setters setters' hSetters => ?_
    have hReadable := h.addFields_alike hType hSees hGetters
    have hWritable := h.addWritableFields_alike hType hSees hSetters
    -- the names of both tables make the index
    refine .ok ⟨rfl, hReadable, hWritable, ?_, h.constructor?_eq type description⟩
    show CaseIndex.ofNames _ = CaseIndex.ofNames _
    rw [hReadable.names_eq, hWritable.names_eq]

end Builds

end Retypes

end Source

end Introspect
