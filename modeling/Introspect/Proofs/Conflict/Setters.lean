import Introspect.Proofs.Conflict.Getters
import Introspect.Proofs.MemberType
import Introspect.Proofs.Profile.Registration

/-!
# Which setter wins

A setter that takes exactly what the getter returns wins over all others, however narrow they are.
What the getter returns is looked at as the built type sees it, and what a setter takes as the type
that declares it does; so the rule is about setters for which the two views agree.

* `Candidate.Takes` — what a setter takes, seen from the built type.

Main results:

* `takes_iff_of_erasedParameter`: where the two views agree.
* `Makes.exists_exact_setter`: the first setter whose erased parameter is what the getter returns is
  registered.
* `exact_setter_wins`: the setter that is registered takes what the getter returns, if no inherited
  setter of a bare type parameter comes in between.
* `exact_setter_passed_over`: such a setter can lose against one that takes something else.
-/

namespace Introspect

variable {V : Type} {source : Source V} {type taken : TypeName}

/-- The method takes one value, which is one of the type `taken` as `type` sees it. -/
def Candidate.Takes (source : Source V) (type : TypeName) (candidate : Candidate V)
    (taken : TypeName) : Prop :=
  ∃ declared, candidate.method.parameters = [declared] ∧
    (source.memberType declared candidate.declaring type).valueType = taken

namespace Source

variable {candidate : Candidate V}

/-! ## What a setter takes -/

/-- What a setter of one parameter takes is that parameter, erased in the declaring type. -/
theorem erasedParameter_of_sole {declared : TypeExpr}
    (hParameters : candidate.method.parameters = [declared]) :
    candidate.erasedParameter source = source.erase declared candidate.declaring := by
  unfold Candidate.erasedParameter Candidate.erasedParameters
  rw [hParameters]
  rfl

/-- A setter takes what the getter returns if that is its erased parameter. -/
theorem takesType_iff :
    source.takesType (some taken) candidate = true ↔ candidate.erasedParameter source = taken := by
  unfold takesType
  rw [beq_iff_eq, Option.some_inj]
  exact eq_comm

/-- A setter takes what its erased parameter says, unless it is inherited and takes a bare type
parameter. -/
theorem takes_iff_of_erasedParameter {declared : TypeExpr}
    (hParameters : candidate.method.parameters = [declared])
    (hSame : candidate.declaring = type ∨ ∀ name, declared ≠ .parameter name) :
    candidate.Takes source type taken ↔ candidate.erasedParameter source = taken := by
  have hType : (source.memberType declared candidate.declaring type).valueType =
      candidate.erasedParameter source := by
    rw [erasedParameter_of_sole hParameters]
    rcases hSame with rfl | hDeclared
    · exact valueType_memberType_self
    · exact valueType_memberType hDeclared
  constructor
  · rintro ⟨other, hOther, hTaken⟩
    -- a setter has one parameter, so there is one type that it takes
    obtain rfl : other = declared := by simpa [hParameters] using hOther.symm
    rw [← hType]
    exact hTaken
  · intro hTaken
    exact ⟨declared, hParameters, hType.trans hTaken⟩

/-! ## The setter that is registered -/

/-- **The first setter that takes what the getter returns is registered**, as far as erased types
go. -/
theorem Makes.exists_exact_setter {profile : Profile V} {getters : Table V}
    {readers writers : List (String × Property V)} {name : String} {getter : Property V}
    (h : source.Makes type profile getters readers writers)
    (hGetter : profile.readable.find? name = some getter)
    (hMethod : getter.accessor.isField = false)
    (hSetter : candidate ∈ source.settersOf type name)
    (hTakes : candidate.erasedParameter source = getter.type.valueType) :
    ∃ winner declared,
      (source.settersOf type name).find? (source.takesType (some getter.type.valueType)) =
        some winner ∧
      winner.method.parameters = [declared] ∧
      profile.writable.find? name = some (source.methodProperty type winner declared) := by
  obtain ⟨claim, rfl, hMembers, property, ⟨winner, declared, hChosen, hParameters, rfl⟩, hFound⟩ :=
    h.exists_writesBy (h.free_of_find?_readable hGetter) hSetter
  have hWanted : getterType? getters claim.property = some getter.type.valueType := by
    rw [getterType?, h.find?_getters hGetter hMethod, Option.map_some]
  -- a setter that takes the type exists, so the search for one succeeds
  have hExists : (claim.candidates.find?
      (source.takesType (some getter.type.valueType))).isSome = true := by
    rw [List.find?_isSome]
    exact ⟨candidate, hMembers ▸ hSetter, takesType_iff.mpr hTakes⟩
  obtain ⟨chosen, hExact⟩ := Option.isSome_iff_exists.mp hExists
  rw [chooseSetter, hWanted, hExact] at hChosen
  cases hChosen
  exact ⟨winner, declared, hMembers ▸ hExact, hParameters, hFound⟩

/-! ## The main result -/

/--
**A setter that takes exactly what the getter returns wins outright.** Of a property that a method
reads, the first setter with the getter's type as its erased parameter is registered. So a setter of
the getter's type is registered wherever there is one, provided that the two views of a setter agree
for those that are inherited and take a bare type parameter.
-/
theorem exact_setter_wins {profile : Profile V} (h : source.profile type = .ok profile)
    {name : String} {getter : Property V} (hGetter : profile.readable.find? name = some getter)
    (hMethod : getter.accessor.isField = false) :
    (∀ before candidate after, source.settersOf type name = before ++ candidate :: after →
      (∀ other ∈ before, other.erasedParameter source ≠ getter.type.valueType) →
      candidate.erasedParameter source = getter.type.valueType →
        ∃ declared, candidate.method.parameters = [declared] ∧
          profile.writable.find? name = some (source.methodProperty type candidate declared)) ∧
    ((∀ candidate ∈ source.settersOf type name, candidate.declaring ≠ type →
        ∀ parameter, candidate.method.parameters = [.parameter parameter] →
          (candidate.Takes source type getter.type.valueType ↔
            candidate.erasedParameter source = getter.type.valueType)) →
      (∃ candidate ∈ source.settersOf type name,
        candidate.Takes source type getter.type.valueType) →
        ∃ setter, profile.writable.find? name = some setter ∧
          setter.type.valueType = getter.type.valueType) := by
  obtain ⟨getters, readers, writers, hMakes⟩ := profile_makes h
  constructor
  · -- the candidate is the first that takes the getter's type, as far as erased types go
    intro before candidate after hSetters hBefore hTakes
    have hSetter : candidate ∈ source.settersOf type name := by
      rw [hSetters]
      exact List.mem_append_right _ List.mem_cons_self
    obtain ⟨winner, declared, hFirst, hParameters, hFound⟩ :=
      hMakes.exists_exact_setter hGetter hMethod hSetter hTakes
    -- the search passes over what comes before the candidate, and ends there
    have hPassed : before.find? (source.takesType (some getter.type.valueType)) = none := by
      rw [List.find?_eq_none]
      intro other hOther hTaken
      exact hBefore other hOther (takesType_iff.mp hTaken)
    rw [hSetters, List.find?_append, hPassed, Option.none_or, List.find?_cons,
      takesType_iff.mpr hTakes] at hFirst
    cases hFirst
    exact ⟨declared, hParameters, hFound⟩
  · -- some setter takes the getter's type as the built type sees it
    rintro hInherited ⟨candidate, hSetter, hTakes⟩
    -- with that proviso the two views agree for all setters of the property
    have hAgree : ∀ setter ∈ source.settersOf type name,
        (setter.Takes source type getter.type.valueType ↔
          setter.erasedParameter source = getter.type.valueType) := by
      intro setter hMember
      obtain ⟨declared, hParameters⟩ := (mem_settersOf.mp hMember).2.1
      by_cases hOwn : setter.declaring = type
      · exact takes_iff_of_erasedParameter hParameters (Or.inl hOwn)
      · cases hDeclared : declared with
        | parameter parameter =>
          rw [hDeclared] at hParameters
          exact hInherited setter hMember hOwn parameter hParameters
        | named raw =>
          exact takes_iff_of_erasedParameter hParameters (Or.inr (by simp [hDeclared]))
        | applied raw arguments =>
          exact takes_iff_of_erasedParameter hParameters (Or.inr (by simp [hDeclared]))
    obtain ⟨winner, declared, hFirst, hParameters, hFound⟩ :=
      hMakes.exists_exact_setter hGetter hMethod hSetter ((hAgree candidate hSetter).mp hTakes)
    have hWinner : winner ∈ source.settersOf type name := List.mem_of_find?_eq_some hFirst
    obtain ⟨other, hOther, hTaken⟩ := (hAgree winner hWinner).mpr
      (takesType_iff.mp (List.find?_some hFirst))
    obtain rfl : other = declared := by simpa [hParameters] using hOther.symm
    exact ⟨_, hFound, hTaken⟩

end Source

/-! ## A sample -/

namespace Sample

def scale : TypeName := ⟨"Scale"⟩

def gauge : TypeName := ⟨"Gauge"⟩

def holder : TypeName := ⟨"Holder"⟩

def badge : TypeName := ⟨"Badge"⟩

def string : TypeName := ⟨"String"⟩

/-- A method that takes the parameter `T` of its type. -/
def generic (name : String) : Method Value :=
  { name, returns? := none, parameters := [.parameter "T"], isBridge := false, body? := none }

/-- A gauge reads numbers off a scale of numbers, and can be set to an integer as well. A badge reads
the text that it holds, and can be set to an integer as well. -/
def instruments : Source Value :=
  (Catalog.mk (numbers.descriptions ++
    [.plain string .concrete,
      { Description.plain scale .concrete with
        parameters := [⟨"T", number⟩], methods := [generic "setLevel"] },
      { Description.plain gauge .concrete with
        superclass? := some (.applied scale [.named number])
        methods := [method "getLevel" (some number) [], method "setLevel" none [integer]] },
      { Description.plain holder .concrete with
        parameters := [⟨"T", .object⟩], methods := [generic "setValue"] },
      { Description.plain badge .concrete with
        superclass? := some (.applied holder [.named string])
        methods := [method "getValue" (some string) [], method "setValue" none [integer]] }])).toSource

end Sample

namespace Source

/-- Of the setters of a gauge the one of any number wins: an integer would be narrower, but the
getter returns a number. -/
theorem exact_setter_wins_gauge :
    Sample.instruments.profile Sample.gauge =
        .ok (Sample.profileOf Sample.instruments Sample.gauge) ∧
      ∃ setter,
        (Sample.profileOf Sample.instruments Sample.gauge).writable.find? "level" = some setter ∧
        setter.type.valueType = Sample.number := by
  have hProfile : Sample.instruments.profile Sample.gauge =
      .ok (Sample.profileOf Sample.instruments Sample.gauge) :=
    Sample.profile_eq_profileOf (by cbv)
  have hGetter : (Sample.profileOf Sample.instruments Sample.gauge).readable.find? "level" =
      some (Sample.instruments.methodProperty Sample.gauge
        ⟨Sample.gauge, Sample.method "getLevel" (some Sample.number) []⟩ (.named Sample.number)) := by
    cbv
  have hSetters : Sample.instruments.settersOf Sample.gauge "level" =
      [⟨Sample.gauge, Sample.method "setLevel" none [Sample.integer]⟩,
        ⟨Sample.scale, Sample.generic "setLevel"⟩] := by cbv
  -- the scale's own setter takes a parameter, whose bound is what the gauge puts in its place
  have hScale : (⟨Sample.scale, Sample.generic "setLevel"⟩ : Candidate Value).Takes
      Sample.instruments Sample.gauge Sample.number := ⟨.parameter "T", rfl, by cbv⟩
  have hErased : (⟨Sample.scale, Sample.generic "setLevel"⟩ : Candidate Value).erasedParameter
      Sample.instruments = Sample.number := by cbv
  obtain ⟨-, hWins⟩ := exact_setter_wins hProfile hGetter rfl
  rw [hSetters] at hWins
  refine ⟨hProfile, hWins ?_ ⟨_, List.mem_cons_of_mem _ List.mem_cons_self, hScale⟩⟩
  intro candidate hCandidate hInherited parameter _
  rcases List.mem_cons.mp hCandidate with rfl | hLast
  · exact absurd rfl hInherited
  · obtain rfl := List.mem_singleton.mp hLast
    exact ⟨fun _ => hErased, fun _ => hScale⟩

/-- A badge holds a text, and inherits a setter that takes one. But that setter is declared for
anything at all, so the other setter wins, and a badge is set to an integer. -/
theorem exact_setter_passed_over :
    ∃ getter candidate setter,
      Sample.instruments.profile Sample.badge =
        .ok (Sample.profileOf Sample.instruments Sample.badge) ∧
      (Sample.profileOf Sample.instruments Sample.badge).readable.find? "value" = some getter ∧
      getter.accessor.isField = false ∧
      candidate ∈ Sample.instruments.settersOf Sample.badge "value" ∧
      candidate.Takes Sample.instruments Sample.badge getter.type.valueType ∧
      (Sample.profileOf Sample.instruments Sample.badge).writable.find? "value" = some setter ∧
      setter.type.valueType ≠ getter.type.valueType := by
  have hSetters : Sample.instruments.settersOf Sample.badge "value" =
      [⟨Sample.badge, Sample.method "setValue" none [Sample.integer]⟩,
        ⟨Sample.holder, Sample.generic "setValue"⟩] := by cbv
  refine ⟨Sample.instruments.methodProperty Sample.badge
      ⟨Sample.badge, Sample.method "getValue" (some Sample.string) []⟩ (.named Sample.string),
    ⟨Sample.holder, Sample.generic "setValue"⟩,
    Sample.instruments.methodProperty Sample.badge
      ⟨Sample.badge, Sample.method "setValue" none [Sample.integer]⟩ (.named Sample.integer),
    Sample.profile_eq_profileOf (by cbv), by cbv, rfl, ?_, ?_, by cbv, ?_⟩
  · rw [hSetters]
    exact List.mem_cons_of_mem _ List.mem_cons_self
  · -- seen from a badge, the holder takes texts
    exact ⟨.parameter "T", rfl, by cbv⟩
  · have hGetter : (Sample.instruments.memberType (.named Sample.string) Sample.badge
        Sample.badge).valueType = Sample.string := by cbv
    have hSetter : (Sample.instruments.memberType (.named Sample.integer) Sample.badge
        Sample.badge).valueType = Sample.integer := by cbv
    show (Sample.instruments.memberType (.named Sample.integer) Sample.badge
      Sample.badge).valueType ≠ _
    rw [hSetter]
    intro hSame
    exact absurd (hSame.trans hGetter) (by decide)

end Source

end Introspect
