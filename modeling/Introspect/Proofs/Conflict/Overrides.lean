import Introspect.Proofs.Candidate
import Introspect.Proofs.Conflict.Getters
import Introspect.Proofs.MemberType
import Introspect.Proofs.Profile.Registration

/-!
# Overriding a generic getter

A type that implements a generic one often declares a getter again, at the type that the generic one
has been applied to. Seen from that type both getters return the same; but getters are compared by
their erasures, in which the inherited one returns the bound of a type parameter. So the type's own
getter wins exactly where what it returns can stand for that bound.

* `Source.Overrides` — two getters of one name that return the same, as the subtype sees it.

Main results:

* `Overrides.candidates_eq`: the type's own getter is met first.
* `generic_override_wins`: whether the own getter is registered, and that it clashes with nothing.
* `generic_override_clashes`: a getter of a primitive clashes with the generic one.
-/

namespace Introspect

variable {V : Type}

/-- A list without repetitions in which only one item occurs is that item alone. -/
theorem eq_singleton_of_nodup {α : Type} {items : List α} {item : α} (hNodup : items.Nodup)
    (hMember : item ∈ items) (hOnly : ∀ other ∈ items, other = item) : items = [item] := by
  -- all members are one and the same, and no member stands there twice
  have hReplicate : items = List.replicate items.length item := List.eq_replicate_of_mem hOnly
  have hShort : items.length ≤ 1 := List.nodup_replicate.mp (hReplicate ▸ hNodup)
  have hLong : 0 < items.length := List.length_pos_of_mem hMember
  rw [hReplicate, show items.length = 1 by omega]
  rfl

namespace Source

variable {source : Source V} {sub super : TypeName} {own inherited : Method V}
  {result : TypeExpr} {property : String}

/-! ## Few candidates -/

/-- The only candidate of a claim is chosen. -/
theorem chooseGetter_sole {claim : Claim V} {candidate : Candidate V}
    (hClaim : claim.candidates = [candidate]) : source.chooseGetter claim = .ok candidate := by
  rw [Claim.candidates, List.cons.injEq] at hClaim
  rw [chooseGetter, hClaim.1, hClaim.2]
  rfl

/-- Of two candidates the better one is chosen. -/
theorem chooseGetter_pair {claim : Claim V} {first second : Candidate V}
    (hClaim : claim.candidates = [first, second]) :
    source.chooseGetter claim = source.betterGetter first second := by
  rw [Claim.candidates, List.cons.injEq] at hClaim
  rw [chooseGetter, hClaim.1, hClaim.2, List.foldlM_cons]
  cases source.betterGetter first second with
  | error clash => rfl
  | ok kept => rfl

/-! ## An override and what it overrides -/

/-- Two methods of one name without parameters, the one declared by `sub` and the other by `super`,
both of which return `result` as `sub` sees it. -/
structure Overrides (source : Source V) (sub super : TypeName) (own inherited : Method V)
    (result : TypeExpr) : Prop where
  name_eq : own.name = inherited.name
  own_parameters : own.parameters = []
  inherited_parameters : inherited.parameters = []
  own_returns : ∃ declared, own.returns? = some declared ∧
    source.memberType declared sub sub = result
  inherited_returns : ∃ declared, inherited.returns? = some declared ∧
    source.memberType declared super sub = result

namespace Overrides

/-- The erased type of the own getter is what it returns, without arguments. -/
theorem erasedReturn_own (h : source.Overrides sub super own inherited result) :
    Candidate.erasedReturn source ⟨sub, own⟩ = result.valueType := by
  obtain ⟨declared, hReturns, hResult⟩ := h.own_returns
  rw [← hResult, valueType_memberType_self, Candidate.erasedReturn, hReturns]

/-- Where both are declared by one type, they are erased to the same. -/
theorem erasedReturn_inherited_self (h : source.Overrides sub sub own inherited result) :
    Candidate.erasedReturn source ⟨sub, inherited⟩ = result.valueType := by
  -- the type that declares the getter is the one that looks at it
  obtain ⟨declared, hReturns, hResult⟩ := h.inherited_returns
  rw [← hResult, valueType_memberType_self, Candidate.erasedReturn, hReturns]

/-- Where both are erased to the same, only one of them can be a candidate. -/
theorem eq_of_erasedReturn_eq (h : source.Overrides sub super own inherited result)
    (hOwn : ⟨sub, own⟩ ∈ source.candidates sub)
    (hInherited : ⟨super, inherited⟩ ∈ source.candidates sub)
    (hErased : Candidate.erasedReturn source ⟨super, inherited⟩ = result.valueType) :
    (⟨super, inherited⟩ : Candidate V) = ⟨sub, own⟩ := by
  obtain ⟨declared, hReturns, -⟩ := h.own_returns
  obtain ⟨declared', hReturns', -⟩ := h.inherited_returns
  -- the name, no parameters and the erased type are all that a signature has
  have hKey : Candidate.signatureKey source ⟨super, inherited⟩ =
      Candidate.signatureKey source ⟨sub, own⟩ :=
    signatureKey_congr h.name_eq.symm h.inherited_parameters h.own_parameters
      (by simp [hReturns']) (by simp [hReturns]) (hErased.trans h.erasedReturn_own.symm)
  exact List.inj_on_of_nodup_map (nodup_signatures source sub) hInherited hOwn hKey

/-- **The own getter is met first**, alone or followed by the inherited one, which is then erased to
another type and declared by another. -/
theorem candidates_eq (h : source.Overrides sub super own inherited result)
    (hOwn : ⟨sub, own⟩ ∈ source.gettersOf sub property)
    (hOnly : ∀ candidate ∈ source.gettersOf sub property,
      candidate = ⟨sub, own⟩ ∨ candidate = ⟨super, inherited⟩) :
    source.gettersOf sub property = [⟨sub, own⟩] ∨
      source.gettersOf sub property = [⟨sub, own⟩, ⟨super, inherited⟩] ∧ super ≠ sub ∧
        Candidate.erasedReturn source ⟨super, inherited⟩ ≠ result.valueType := by
  have hNodup : (source.gettersOf sub property).Nodup :=
    (List.Nodup.of_map _ (nodup_signatures source sub)).filter _
  -- the inherited getter is a candidate of its own, or there is only one
  by_cases hInherited : (⟨super, inherited⟩ : Candidate V) ∈ source.gettersOf sub property ∧
      (⟨super, inherited⟩ : Candidate V) ≠ ⟨sub, own⟩
  · obtain ⟨hInherited, hOther⟩ := hInherited
    -- two candidates with one erasure would have one signature
    have hErased : Candidate.erasedReturn source ⟨super, inherited⟩ ≠ result.valueType :=
      fun hErased => hOther (h.eq_of_erasedReturn_eq (mem_gettersOf.mp hOwn).1
        (mem_gettersOf.mp hInherited).1 hErased)
    have hSuper : super ≠ sub := by
      rintro rfl
      exact hErased h.erasedReturn_inherited_self
    refine Or.inr ⟨?_, hSuper, hErased⟩
    -- each of the two is alone in its part of the candidates
    obtain ⟨here, above, hCandidates, hHere, hAbove⟩ := exists_candidates_eq_append source sub
    have hParts : source.gettersOf sub property =
        here.filter (source.getterProperty? · == some property) ++
          above.filter (source.getterProperty? · == some property) := by
      rw [gettersOf, hCandidates, List.filter_append]
    rw [hParts] at hOwn hInherited hOnly hNodup ⊢
    have hFirst : here.filter (source.getterProperty? · == some property) = [⟨sub, own⟩] := by
      -- of the two only the own getter is declared here
      refine eq_singleton_of_nodup hNodup.of_append_left ?_ fun candidate hCandidate => ?_
      · exact (List.mem_append.mp hOwn).resolve_right fun hLater =>
          hAbove _ (List.mem_of_mem_filter hLater) rfl
      · refine (hOnly candidate (List.mem_append_left _ hCandidate)).resolve_right ?_
        rintro rfl
        exact hSuper (hHere _ (List.mem_of_mem_filter hCandidate))
    have hSecond : above.filter (source.getterProperty? · == some property) =
        [⟨super, inherited⟩] := by
      -- and only the inherited one above
      refine eq_singleton_of_nodup hNodup.of_append_right ?_ fun candidate hCandidate => ?_
      · exact (List.mem_append.mp hInherited).resolve_left fun hEarlier =>
          hSuper (hHere _ (List.mem_of_mem_filter hEarlier))
      · refine (hOnly candidate (List.mem_append_right _ hCandidate)).resolve_left ?_
        rintro rfl
        exact hAbove _ (List.mem_of_mem_filter hCandidate) rfl
    rw [hFirst, hSecond]
    rfl
  · -- the inherited getter is no candidate, or it is the own one
    left
    refine eq_singleton_of_nodup hNodup hOwn fun candidate hCandidate => ?_
    rcases hOnly candidate hCandidate with hSame | hSame
    · exact hSame
    · by_contra hOther
      exact hInherited ⟨hSame ▸ hCandidate, hSame ▸ hOther⟩

variable {claim : Claim V}

/-- The own getter wins if what it returns can stand for the erased type of the inherited one. -/
theorem chooseGetter_own (h : source.Overrides sub super own inherited result)
    (hClaim : claim.candidates = source.gettersOf sub property)
    (hOwn : ⟨sub, own⟩ ∈ source.gettersOf sub property)
    (hOnly : ∀ candidate ∈ source.gettersOf sub property,
      candidate = ⟨sub, own⟩ ∨ candidate = ⟨super, inherited⟩)
    (hNarrower : source.isAssignable (Candidate.erasedReturn source ⟨super, inherited⟩)
      result.valueType = true) :
    source.chooseGetter claim = .ok ⟨sub, own⟩ := by
  rcases h.candidates_eq hOwn hOnly with hAlone | ⟨hBoth, -, hErased⟩
  · -- there is nothing else to choose from
    exact chooseGetter_sole (hClaim.trans hAlone)
  · -- the inherited getter is the wider one, so the lead stays where it is
    rw [chooseGetter_pair (hClaim.trans hBoth)]
    refine betterGetter_eq_ok_iff.mpr (Or.inr (Or.inl ⟨?_, ?_, rfl⟩))
    · rw [h.erasedReturn_own]
      exact hErased
    · rw [h.erasedReturn_own]
      exact hNarrower

/-- Otherwise it never wins against the inherited one. -/
theorem eq_inherited_of_chooseGetter (h : source.Overrides sub super own inherited result)
    (hClaim : claim.candidates = source.gettersOf sub property)
    (hOwn : ⟨sub, own⟩ ∈ source.gettersOf sub property)
    (hInherited : ⟨super, inherited⟩ ∈ source.gettersOf sub property)
    (hOnly : ∀ candidate ∈ source.gettersOf sub property,
      candidate = ⟨sub, own⟩ ∨ candidate = ⟨super, inherited⟩)
    (hNot : source.isAssignable (Candidate.erasedReturn source ⟨super, inherited⟩)
      result.valueType = false) {winner : Candidate V}
    (hWinner : source.chooseGetter claim = .ok winner) :
    winner = ⟨super, inherited⟩ ∧ super ≠ sub := by
  rcases h.candidates_eq hOwn hOnly with hAlone | ⟨hBoth, hSuper, hErased⟩
  · -- alone, the own getter would be the inherited one, whose type is assignable to itself
    rw [hAlone, List.mem_singleton] at hInherited
    rw [hInherited, h.erasedReturn_own] at hNot
    have hSelf : source.isAssignable result.valueType result.valueType = true :=
      isAssignable_iff.mpr (Or.inl rfl)
    rw [hNot] at hSelf
    cases hSelf
  · rw [chooseGetter_pair (hClaim.trans hBoth)] at hWinner
    rcases betterGetter_eq_ok_iff.mp hWinner with
      ⟨hSame, -⟩ | ⟨-, hHeld, -⟩ | ⟨-, -, -, hOffered⟩
    · -- the two are erased to different types
      rw [h.erasedReturn_own] at hSame
      exact absurd hSame hErased
    · -- and the own getter is not the narrower one
      rw [h.erasedReturn_own, hNot] at hHeld
      cases hHeld
    · exact ⟨hOffered, hSuper⟩

end Overrides

/-! ## The main result -/

/--
**An override of a generic getter wins where erasures allow it.** Let a type declare a getter that
returns, as the type sees it, just what a getter of that name returns which it inherits, and let no
other candidate read the property. If what is returned can stand for the erased type of the inherited
getter, then the property is not ambiguous, and the type's own getter is registered unless the name is
reserved, under which nothing is registered. Otherwise, with both among the candidates, the own getter
is never registered.
-/
theorem generic_override_wins (h : source.Overrides sub super own inherited result)
    (hOwn : ⟨sub, own⟩ ∈ source.gettersOf sub property)
    (hOnly : ∀ candidate ∈ source.gettersOf sub property,
      candidate = ⟨sub, own⟩ ∨ candidate = ⟨super, inherited⟩) :
    (source.isAssignable (Candidate.erasedReturn source ⟨super, inherited⟩) result.valueType = true →
      (∀ declaring first second,
        source.profile sub ≠ .error (.ambiguousGetter property declaring first second)) ∧
      ∀ profile, source.profile sub = .ok profile →
        (PropertyName.isReserved property = false →
          ∃ getter, profile.readable.find? property = some getter ∧
            getter.accessor = .ofMethod sub own ∧ getter.type = result) ∧
        (PropertyName.isReserved property = true → profile.readable.find? property = none)) ∧
    (source.isAssignable (Candidate.erasedReturn source ⟨super, inherited⟩) result.valueType = false →
      ⟨super, inherited⟩ ∈ source.gettersOf sub property →
        ∀ profile getter, source.profile sub = .ok profile →
          profile.readable.find? property = some getter →
            getter.accessor = .ofMethod super inherited ∧ super ≠ sub) := by
  constructor
  · -- the own getter is the narrower one: it is chosen, so that nothing clashes, and then
    -- registered
    intro hNarrower
    have hWins : ∀ claim : Claim V, claim.candidates = source.gettersOf sub property →
        source.chooseGetter claim = .ok ⟨sub, own⟩ :=
      fun claim hClaim => h.chooseGetter_own hClaim hOwn hOnly hNarrower
    constructor
    · intro declaring first second hProfile
      -- the clash would be that of a choice which has succeeded
      obtain ⟨claim, -, hClaim, hClash⟩ := exists_clash_of_profile hProfile
      rw [hWins claim hClaim] at hClash
      cases hClash
    · intro profile hProfile
      obtain ⟨getters, readers, writers, hMakes⟩ := profile_makes hProfile
      constructor
      · intro hFree
        obtain ⟨claim, -, hClaim, getter, ⟨winner, declared, hWinner, hReturns, rfl⟩, hFound⟩ :=
          hMakes.exists_readsBy hFree hOwn
        rw [hWins claim hClaim] at hWinner
        cases hWinner
        -- what is registered is what the own getter returns, as the type sees it
        obtain ⟨other, hOther, hResult⟩ := h.own_returns
        obtain rfl : other = declared := Option.some.inj (hOther.symm.trans hReturns)
        exact ⟨_, hFound, rfl, hResult⟩
      · intro hReserved
        -- whatever is registered has a name that is free
        by_contra hSome
        obtain ⟨getter, hGetter⟩ := Option.ne_none_iff_exists'.mp hSome
        rw [hMakes.free_of_find?_readable hGetter] at hReserved
        cases hReserved
  · -- the inherited getter is chosen, if any is
    intro hNot hInherited profile getter hProfile hGetter
    obtain ⟨getters, readers, writers, hMakes⟩ := profile_makes hProfile
    obtain ⟨claim, -, hClaim, found, ⟨winner, declared, hWinner, -, rfl⟩, hFound⟩ :=
      hMakes.exists_readsBy (hMakes.free_of_find?_readable hGetter) hOwn
    obtain ⟨rfl, hSuper⟩ := h.eq_inherited_of_chooseGetter hClaim hOwn hInherited hOnly hNot hWinner
    obtain rfl := Option.some.inj (hFound.symm.trans hGetter)
    exact ⟨rfl, hSuper⟩

end Source

/-! ## A sample -/

namespace Sample

def supplier : TypeName := ⟨"Supplier"⟩

def clerk : TypeName := ⟨"Clerk"⟩

def counter : TypeName := ⟨"Counter"⟩

def typed : TypeName := ⟨"Typed"⟩

def note : TypeName := ⟨"Note"⟩

/-- A method that returns the parameter `T` of its type. -/
def supply (name : String) : Method Value :=
  { name, returns? := some (.parameter "T"), parameters := [], isBridge := false, body? := none }

/-- Clerks supply texts, and counters numbers. What is typed says what its class is, and a note says
that its class is a text. -/
def suppliers : Source Value :=
  (Catalog.mk
    [.plain ⟨"String"⟩ .concrete, .plain ⟨"i64"⟩ .primitive,
      { Description.plain supplier .contract with
        parameters := [⟨"T", .object⟩], methods := [supply "getValue"] },
      { Description.plain clerk .concrete with
        interfaces := [.applied supplier [.named ⟨"String"⟩]]
        methods := [method "getValue" (some ⟨"String"⟩) []] },
      { Description.plain counter .concrete with
        interfaces := [.applied supplier [.named ⟨"i64"⟩]]
        methods := [method "getValue" (some ⟨"i64"⟩) []] },
      { Description.plain typed .contract with
        parameters := [⟨"T", .object⟩], methods := [supply "getClass"] },
      { Description.plain note .concrete with
        interfaces := [.applied typed [.named ⟨"String"⟩]]
        methods := [method "getClass" (some ⟨"String"⟩) []] }]).toSource

theorem overrides_note : suppliers.Overrides note typed
    (method "getClass" (some ⟨"String"⟩) []) (supply "getClass") (.named ⟨"String"⟩) :=
  ⟨rfl, rfl, rfl, ⟨_, rfl, by cbv⟩, ⟨_, rfl, by cbv⟩⟩

theorem gettersOf_note : suppliers.gettersOf note "class" =
    [⟨note, method "getClass" (some ⟨"String"⟩) []⟩, ⟨typed, supply "getClass"⟩] := by
  cbv

end Sample

namespace Source

/-- The clerk's own getter is registered, and not the one of any supplier. What a note overrides has a
reserved name, and is not registered at all. -/
theorem generic_override_wins_clerk :
    Sample.suppliers.profile Sample.clerk =
        .ok (Sample.profileOf Sample.suppliers Sample.clerk) ∧
      (∃ getter,
        (Sample.profileOf Sample.suppliers Sample.clerk).readable.find? "value" = some getter ∧
        getter.accessor = .ofMethod Sample.clerk (Sample.method "getValue" (some ⟨"String"⟩) []) ∧
        getter.type = .named ⟨"String"⟩) ∧
      Sample.suppliers.profile Sample.note =
        .ok (Sample.profileOf Sample.suppliers Sample.note) ∧
      (Sample.profileOf Sample.suppliers Sample.note).readable.find? "class" = none := by
  have hProfile : Sample.suppliers.profile Sample.clerk =
      .ok (Sample.profileOf Sample.suppliers Sample.clerk) :=
    Sample.profile_eq_profileOf (by cbv)
  have hOverrides : Sample.suppliers.Overrides Sample.clerk Sample.supplier
      (Sample.method "getValue" (some ⟨"String"⟩) []) (Sample.supply "getValue")
      (.named ⟨"String"⟩) :=
    ⟨rfl, rfl, rfl, ⟨_, rfl, by cbv⟩, ⟨_, rfl, by cbv⟩⟩
  have hGetters : Sample.suppliers.gettersOf Sample.clerk "value" =
      [⟨Sample.clerk, Sample.method "getValue" (some ⟨"String"⟩) []⟩,
        ⟨Sample.supplier, Sample.supply "getValue"⟩] := by cbv
  obtain ⟨hWins, -⟩ := generic_override_wins hOverrides
    (by rw [hGetters]; exact List.mem_cons_self) (by rw [hGetters]; simp)
  -- a text is an object, for a clerk and for a note
  obtain ⟨-, hRegistered⟩ := hWins (by cbv)
  have hNote : Sample.suppliers.profile Sample.note =
      .ok (Sample.profileOf Sample.suppliers Sample.note) :=
    Sample.profile_eq_profileOf (by cbv)
  obtain ⟨hNoteWins, -⟩ := generic_override_wins Sample.overrides_note
    (by rw [Sample.gettersOf_note]; exact List.mem_cons_self)
    (by rw [Sample.gettersOf_note]; simp)
  obtain ⟨-, hInert⟩ := hNoteWins (by cbv)
  exact ⟨hProfile, (hRegistered _ hProfile).1 (by decide), hNote, (hInert _ hNote).2 (by decide)⟩

/-- A counter overrides the getter of its supplier at a number, and the two are ambiguous, since no
primitive can stand for an object. A note overrides the getter of what is typed, and nothing is
registered, since no property is named `class`. -/
theorem generic_override_clashes :
    (Sample.suppliers.Overrides Sample.counter Sample.supplier
        (Sample.method "getValue" (some ⟨"i64"⟩) []) (Sample.supply "getValue") (.named ⟨"i64"⟩) ∧
      Sample.suppliers.gettersOf Sample.counter "value" =
        [⟨Sample.counter, Sample.method "getValue" (some ⟨"i64"⟩) []⟩,
          ⟨Sample.supplier, Sample.supply "getValue"⟩] ∧
      Sample.suppliers.profile Sample.counter =
        .error (.ambiguousGetter "value" Sample.counter ⟨"i64"⟩ .object)) ∧
    (Sample.suppliers.Overrides Sample.note Sample.typed
        (Sample.method "getClass" (some ⟨"String"⟩) []) (Sample.supply "getClass")
        (.named ⟨"String"⟩) ∧
      Sample.suppliers.gettersOf Sample.note "class" =
        [⟨Sample.note, Sample.method "getClass" (some ⟨"String"⟩) []⟩,
          ⟨Sample.typed, Sample.supply "getClass"⟩] ∧
      ∃ profile, Sample.suppliers.profile Sample.note = .ok profile ∧
        profile.readable.find? "class" = none) := by
  refine ⟨⟨⟨rfl, rfl, rfl, ⟨_, rfl, by cbv⟩, ⟨_, rfl, by cbv⟩⟩, by cbv, by cbv⟩,
    Sample.overrides_note, Sample.gettersOf_note, ?_⟩
  exact ⟨Sample.profileOf Sample.suppliers Sample.note, Sample.profile_eq_profileOf (by cbv), by cbv⟩

end Source

end Introspect
