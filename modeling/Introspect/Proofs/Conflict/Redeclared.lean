import Introspect.Proofs.Conflict.Narrowest

/-!
# Setters that are declared again

A subtype may declare an inherited setter again, with another return type: a fluent setter returns the
subtype. What a method returns is part of its signature, so both setters stay candidates, and they take
the same. If that is what the getter returns, the setter that is met first wins, which is the
subtype's. Otherwise setters are compared, and of two that take the same the later one goes on: the
inherited setter displaces the one that was to replace it.

* `Profile.ReadByMethod` — a method reads a property, and returns values of a type.
* `Source.LastOfParameter` — a setter is the last of those that were met to take what it takes.

Main results:

* `LastOfParameter.better`: one comparison leaves the last of its parameter type.
* `place_of_chooseSetter`: where the chosen setter stands among those that take the same.
* `setter_among_redeclared`: where the setter stands that is registered.
* `redeclared_setter_displaced`: a fluent setter loses against the one that it overrides.
-/

namespace Introspect

variable {V : Type} {source : Source V} {type : TypeName}

/-- A method reads the property, and what it returns is of the type `returned`. -/
def Profile.ReadByMethod (profile : Profile V) (name : String) (returned : TypeName) : Prop :=
  ∃ getter, profile.readable.find? name = some getter ∧ getter.accessor.isField = false ∧
    getter.type.valueType = returned

namespace Source

variable {held offered kept winner : Candidate V} {met : List (Candidate V)} {claim : Claim V}

/-! ## The last of a parameter type -/

/-- A setter is among those that were met, and none after it takes what it takes. -/
def LastOfParameter (source : Source V) (met : List (Candidate V)) (winner : Candidate V) : Prop :=
  ∃ before after, met = before ++ winner :: after ∧
    ∀ other ∈ after, other.erasedParameter source ≠ winner.erasedParameter source

/-- **One comparison** leaves the last of its parameter type. -/
theorem LastOfParameter.better (h : source.LastOfParameter met held)
    (hBetter : source.betterSetter held offered = .ok kept) :
    source.LastOfParameter (met ++ [offered]) kept := by
  rcases betterSetter_eq_ok_iff.mp hBetter with ⟨-, rfl⟩ | ⟨hNot, -, rfl⟩
  · -- the newcomer stands last of all
    exact ⟨met, [], rfl, by simp⟩
  · -- the winner so far goes on, and what was met after it is followed by the newcomer
    obtain ⟨before, after, rfl, hAfter⟩ := h
    refine ⟨before, after ++ [offered], by simp, ?_⟩
    intro other hOther
    rcases List.mem_append.mp hOther with hMet | hNew
    · exact hAfter other hMet
    · -- a newcomer that takes the same would have been kept
      obtain rfl : other = offered := by simpa using hNew
      intro hSame
      have hNarrow : source.isAssignable (kept.erasedParameter source)
          (other.erasedParameter source) = true := isAssignable_iff.mpr (Or.inl hSame.symm)
      rw [hNot] at hNarrow
      cases hNarrow

/-- **Where the chosen setter stands**: it is the first to take what the getter returns, or else the
last to take what it takes. -/
theorem place_of_chooseSetter {wanted? : Option TypeName}
    (h : source.chooseSetter wanted? claim = .ok winner) :
    ∃ before after, claim.candidates = before ++ winner :: after ∧
      (wanted? = some (winner.erasedParameter source) ∧
          (∀ other ∈ before, other.erasedParameter source ≠ winner.erasedParameter source) ∨
        source.Unmatched wanted? claim.candidates ∧
          ∀ other ∈ after, other.erasedParameter source ≠ winner.erasedParameter source) := by
  rcases exists_first_match_or_unmatched source wanted? claim.candidates with
    ⟨before, first, after, hCandidates, hBefore, hTakes⟩ | hNone
  · -- the first match is the winner, and nobody before it matches
    rw [chooseSetter_of_match hCandidates hBefore hTakes] at h
    cases h
    refine ⟨before, after, hCandidates, Or.inl ⟨hTakes, ?_⟩⟩
    intro other hOther hSame
    exact hBefore other hOther (hTakes.trans (congrArg some hSame.symm))
  · -- the comparisons begin with the first candidate
    rw [chooseSetter_of_unmatched hNone] at h
    have hFirst : source.LastOfParameter [claim.first] claim.first := ⟨[], [], rfl, by simp⟩
    obtain ⟨before, after, hCandidates, hAfter⟩ :=
      invariant_of_foldlM source.LastOfParameter LastOfParameter.better hFirst h
    exact ⟨before, after, hCandidates, Or.inr ⟨hNone, hAfter⟩⟩

/-! ## What the getter returns -/

/-- What methods read is method-backed. -/
theorem Makes.getterType?_eq_some_iff {profile : Profile V} {getters : Table V}
    {readers writers : List (String × Property V)} {name : String} {returned : TypeName}
    (h : source.Makes type profile getters readers writers)
    (hFree : PropertyName.isReserved name = false) :
    getterType? getters name = some returned ↔ profile.ReadByMethod name returned := by
  unfold getterType?
  -- both sides say that something stands under the name, and what type it has
  rw [Option.map_eq_some_iff]
  constructor
  · rintro ⟨getter, hGetter, hReturned⟩
    -- the getters come first in the list of all that can be read
    have hListed := hGetter
    rw [h.getters_lists.find?_eq, lookup_unreserved hFree] at hListed
    have hFound : profile.readable.find? name = some getter := by
      rw [h.readable_lists.find?_eq, lookup_unreserved hFree, List.lookup_append, hListed,
        Option.some_or]
    obtain ⟨claim, -, -, winner, declared, -, -, rfl⟩ := of_lookup_settled h.readers_settled hListed
    exact ⟨_, hFound, rfl, hReturned⟩
  · -- what can be read by a method is what that method's claim was settled for
    rintro ⟨getter, hFound, hMethod, hReturned⟩
    exact ⟨getter, h.find?_getters hFound hMethod, hReturned⟩

/-! ## The main result -/

/--
**The setter that is registered is the first or the last of those that take what it takes.** It is the
first if the getter, a method, returns what it takes; otherwise the getter returns what no setter
takes, or there is none, and it is the last.
-/
theorem setter_among_redeclared {profile : Profile V} (h : source.profile type = .ok profile)
    {name : String} {setter : Property V} (hSetter : profile.writable.find? name = some setter)
    (hMethod : setter.accessor.isField = false) :
    ∃ before winner after declared,
      source.settersOf type name = before ++ winner :: after ∧
      winner.method.parameters = [declared] ∧
      setter = source.methodProperty type winner declared ∧
      (profile.ReadByMethod name (winner.erasedParameter source) ∧
          (∀ other ∈ before, other.erasedParameter source ≠ winner.erasedParameter source) ∨
        (∀ candidate ∈ source.settersOf type name,
            ¬profile.ReadByMethod name (candidate.erasedParameter source)) ∧
          ∀ other ∈ after, other.erasedParameter source ≠ winner.erasedParameter source) := by
  -- a setter that is no field was the winner of a claim
  obtain ⟨getters, readers, writers, hMakes⟩ := profile_makes h
  rcases backed_of_parts hMakes.writers_settled hMakes.writable_lists hSetter with
    ⟨claim, hClaim, rfl, winner, declared, hWinner, hParameters, hProperty⟩ |
      ⟨-, declared, -, rfl⟩
  · -- names that are registered are not reserved
    have hHeld : profile.writable.contains claim.property = true := by
      rw [Table.contains, hSetter]
      rfl
    have hFree := ((contains_of_parts hMakes.writers_settled hMakes.writable_lists).mp hHeld).1
    have hMembers : claim.candidates = source.settersOf type claim.property :=
      Claim.mem_gather hClaim
    -- the place of the winner is read off the choice that was made for the claim
    obtain ⟨before, after, hCandidates, hPlace⟩ := place_of_chooseSetter hWinner
    refine ⟨before, winner, after, declared, hMembers ▸ hCandidates, hParameters, hProperty, ?_⟩
    -- what the choice knew of the getters is what can be read in the end
    rcases hPlace with ⟨hTakes, hBefore⟩ | ⟨hNone, hAfter⟩
    · exact Or.inl ⟨(hMakes.getterType?_eq_some_iff hFree).mp hTakes, hBefore⟩
    · refine Or.inr ⟨?_, hAfter⟩
      intro candidate hCandidate hRead
      refine hNone candidate ?_ ((hMakes.getterType?_eq_some_iff hFree).mpr hRead)
      rw [hMembers]
      exact hCandidate
  · -- what a field backs is reached through a field
    cases hMethod

end Source

/-! ## A sample -/

namespace Sample

def form : TypeName := ⟨"Form"⟩

def builder : TypeName := ⟨"Builder"⟩

def editor : TypeName := ⟨"Editor"⟩

/-- A fluent setter of titles, which returns the type it belongs to. -/
def fluentSetter (type : TypeName) : Method Value := method "setTitle" (some type) [string]

/-- A form has a title. Builders and editors are forms with fluent setters, and an editor also reads
the title. -/
def forms : Source Value :=
  (Catalog.mk
    [.plain string .concrete,
      { Description.plain form .concrete with methods := [method "setTitle" none [string]] },
      { Description.plain builder .concrete with
        superclass? := some (.named form), methods := [fluentSetter builder] },
      { Description.plain editor .concrete with
        superclass? := some (.named form)
        methods := [method "getTitle" (some string) [], fluentSetter editor] }]).toSource

end Sample

namespace Source

/-- The getter of an editor returns what both setters take, so the editor's own setter is registered. -/
theorem setter_among_redeclared_editor :
    Sample.forms.profile Sample.editor = .ok (Sample.profileOf Sample.forms Sample.editor) ∧
      ∃ setter,
        (Sample.profileOf Sample.forms Sample.editor).writable.find? "title" = some setter ∧
        setter.accessor = .ofMethod Sample.editor (Sample.fluentSetter Sample.editor) := by
  have hProfile : Sample.forms.profile Sample.editor =
      .ok (Sample.profileOf Sample.forms Sample.editor) :=
    Sample.profile_eq_profileOf (by cbv)
  have hHeld : ((Sample.profileOf Sample.forms Sample.editor).writable.find? "title").map
      (·.accessor.isField) = some false := by cbv
  obtain ⟨setter, hSetter, hMethod⟩ := Option.map_eq_some_iff.mp hHeld
  obtain ⟨before, winner, after, declared, hSetters, -, rfl, hPlace⟩ :=
    setter_among_redeclared hProfile hSetter hMethod
  refine ⟨hProfile, _, hSetter, ?_⟩
  have hBoth : Sample.forms.settersOf Sample.editor "title" =
      [⟨Sample.editor, Sample.fluentSetter Sample.editor⟩,
        ⟨Sample.form, Sample.method "setTitle" none [Sample.string]⟩] := by cbv
  have hOwn : Candidate.erasedParameter Sample.forms
      ⟨Sample.editor, Sample.fluentSetter Sample.editor⟩ = Sample.string := by cbv
  have hInherited : Candidate.erasedParameter Sample.forms
      ⟨Sample.form, Sample.method "setTitle" none [Sample.string]⟩ = Sample.string := by cbv
  rw [hBoth] at hSetters hPlace
  rcases hPlace with ⟨-, hBefore⟩ | ⟨hNone, -⟩
  · -- nobody before the winner takes texts, and both setters do
    cases before with
    | nil =>
      obtain ⟨rfl, -⟩ := List.cons.inj hSetters
      rfl
    | cons first before =>
      obtain ⟨rfl, hRest⟩ := List.cons.inj hSetters
      have hWinner : winner ∈ [(⟨Sample.form, Sample.method "setTitle" none [Sample.string]⟩ :
          Candidate Value)] := by
        rw [hRest]
        exact List.mem_append_right _ List.mem_cons_self
      obtain rfl := List.mem_singleton.mp hWinner
      exact absurd (hOwn.trans hInherited.symm) (hBefore _ List.mem_cons_self)
  · -- the getter does return a text
    refine absurd ?_ (hNone _ List.mem_cons_self)
    rw [hOwn]
    have hReads : ((Sample.profileOf Sample.forms Sample.editor).readable.find? "title").map
        (fun getter => (getter.accessor.isField, getter.type.valueType)) =
          some (false, Sample.string) := by cbv
    obtain ⟨getter, hGetter, hBacked⟩ := Option.map_eq_some_iff.mp hReads
    obtain ⟨hIsField, hReturned⟩ := Prod.mk.inj hBacked
    exact ⟨getter, hGetter, hIsField, hReturned⟩

/-- A builder has no getter of the title. Its own setter is met first, and takes what the setter of
forms takes; but it is the one of forms that is registered. -/
theorem redeclared_setter_displaced :
    ∃ own inherited setter,
      Sample.forms.profile Sample.builder = .ok (Sample.profileOf Sample.forms Sample.builder) ∧
      Sample.forms.settersOf Sample.builder "title" = [own, inherited] ∧
      own.declaring = Sample.builder ∧
      own.method.name = inherited.method.name ∧
      own.erasedParameter Sample.forms = inherited.erasedParameter Sample.forms ∧
      (Sample.profileOf Sample.forms Sample.builder).writable.find? "title" = some setter ∧
      setter.accessor = .ofMethod inherited.declaring inherited.method ∧
      setter.accessor ≠ .ofMethod own.declaring own.method := by
  refine ⟨⟨Sample.builder, Sample.fluentSetter Sample.builder⟩,
    ⟨Sample.form, Sample.method "setTitle" none [Sample.string]⟩,
    Sample.forms.methodProperty Sample.builder
      ⟨Sample.form, Sample.method "setTitle" none [Sample.string]⟩ (.named Sample.string),
    Sample.profile_eq_profileOf (by cbv), by cbv, rfl, rfl, by cbv, by cbv, rfl, ?_⟩
  intro hSame
  have hDeclaring : Sample.form = Sample.builder := congrArg Accessor.declaring hSame
  revert hDeclaring
  decide

end Source

end Introspect
