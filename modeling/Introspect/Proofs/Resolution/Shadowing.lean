import Introspect.Proofs.Resolution.Agreement
import Introspect.Proofs.Resolution.Canonical

/-!
# Names that differ in case only

Of the properties of a type whose names differ in case only, the first shadows the others: it is the
one that any of the spellings finds. A path of names that are not shadowed is found as it stands, so
it denotes what is found for it; with a name that is shadowed, what is found is about another
property, and may lead elsewhere or to nothing.

* `Source.Unshadowed`: each segment of a path names the property that its name finds.

Main results:

* `eval_resolveAt_eq_ok_iff`: the answers that are gathered about a path.
* `canonical_path_denotes`: what is found for a path that can be used can be used, and where no name
  is shadowed it denotes the same.
-/

namespace Introspect

variable {V : Type} {source : Source V} {type : TypeName} {profile child : Profile V}
  {direction : Direction} {segment next found nextFound : Segment} {rest others : List Segment}

namespace Source

/-- Where the segments before it lead, each segment names the property that its name finds. -/
def Unshadowed (source : Source V) (profile : Profile V) (segments : List Segment) : Prop :=
  ∀ before segment after reached, segments = before ++ segment :: after →
    source.follow profile before = .ok reached →
    reached.findName? segment.name = some segment.name

theorem unshadowed_nil : source.Unshadowed profile [] := by
  intro before segment after reached hSplit
  simp at hSplit

/-- A path is unshadowed if its first segment is and, where that leads, the others are. -/
theorem unshadowed_cons
    (hHere : profile.findName? segment.name = some segment.name)
    (hDeeper : ∀ child, source.step profile segment = .ok child → source.Unshadowed child rest) :
    source.Unshadowed profile (segment :: rest) := by
  intro before later after reached hSplit hFollow
  -- the name in question is that of the first segment, or one behind it
  cases before with
  | nil =>
    cases hSplit
    cases hFollow
    exact hHere
  | cons first before =>
    obtain ⟨rfl, hRest⟩ := List.cons.inj hSplit
    rw [follow, List.foldlM_cons] at hFollow
    obtain ⟨child, hStep, hOn⟩ := bind_eq_ok_iff.mp hFollow
    exact hDeeper child hStep before later after reached hRest hOn

/-- The first segment of an unshadowed path names the property that it finds. -/
theorem Unshadowed.here (h : source.Unshadowed profile (segment :: rest)) :
    profile.findName? segment.name = some segment.name :=
  h [] segment rest profile rfl rfl

/-- Where the first segment of an unshadowed path leads, the others are unshadowed. -/
theorem Unshadowed.deeper (h : source.Unshadowed profile (segment :: rest))
    (hStep : source.step profile segment = .ok child) : source.Unshadowed child rest := by
  intro before later after reached hSplit hFollow
  refine h (segment :: before) later after reached (by rw [hSplit]; rfl) ?_
  rwa [follow_cons before hStep]

/-- Without its last segment an unshadowed path is still unshadowed. -/
theorem Unshadowed.dropLast {segments : List Segment} (h : source.Unshadowed profile segments) :
    source.Unshadowed profile segments.dropLast := by
  intro before segment after reached hSplit hFollow
  -- there is a last segment, since some segment comes before it or is it
  obtain ⟨last, hLast⟩ : ∃ last, segments = segments.dropLast ++ [last] := by
    refine ⟨segments.getLast ?_, (List.dropLast_append_getLast _).symm⟩
    rintro rfl
    simp at hSplit
  exact h before segment (after ++ [last]) reached (by rw [hLast, hSplit]; simp) hFollow

/-- A step reads the property that a segment names, and minds whether it has an index. -/
theorem step_congr (hName : found.name = segment.name)
    (hIndexed : found.isIndexed = segment.isIndexed) :
    source.step profile found = source.step profile segment := by
  unfold step
  rw [hName, hIndexed]

/-! ## What is found where nothing is shadowed -/

/-- Something is found for a path that has a property at its end, unless a name before the last is
shadowed. -/
theorem exists_respells (hProfile : source.profile type = .ok profile) {property : Property V}
    (hProperty : source.propertyAlong direction profile segment rest = .ok property)
    (hFront : source.Unshadowed profile (segment :: rest).dropLast) :
    ∃ found others, source.Respells false profile segment rest found others := by
  -- by the segments behind the first, where the types are those that the walk has come to
  induction rest generalizing type profile segment with
  | nil =>
    -- a name with a property finds some name, its own or one that shadows it
    have hHas : profile.has direction segment.name = true :=
      Profile.has_of_property_eq_ok hProperty
    obtain ⟨name, hName⟩ := Profile.exists_findName?_of_has hProfile hHas
    exact ⟨_, _, .last (Profile.respell?_of_findName? hName)⟩
  | cons next rest ih =>
    rw [propertyAlong] at hProperty
    obtain ⟨child, hStep, hBelow⟩ := bind_eq_ok_iff.mp hProperty
    obtain ⟨_, hChild⟩ := profile_of_step hStep
    rw [List.dropLast_cons_cons] at hFront
    obtain ⟨nextFound, others, hRespells⟩ := ih hChild hBelow (hFront.deeper hStep)
    -- a name that is not shadowed is found as it stands, with the index that it had
    have hFound : profile.respell? false segment =
        some (Segment.ofNameIndex segment.name segment.index?) :=
      Profile.respell?_of_findName? hFront.here
    have hStands := Profile.standsFor_of_respell? hProfile hFound
    refine ⟨_, _, .deeper hFound ?_ hRespells⟩
    rw [step_congr (Segment.name_ofNameIndex segment.bracket_notMem_name) hStands.isIndexed_eq]
    exact hStep

/-- **What is found for names that are not shadowed** denotes what they denote. -/
theorem Respells.propertyAlong_eq (h : source.Respells false profile segment rest found others)
    (direction : Direction) (hProfile : source.profile type = .ok profile)
    (hNames : source.Unshadowed profile (segment :: rest)) :
    source.propertyAlong direction profile found others =
        source.propertyAlong direction profile segment rest ∧
      (others.getLastD found).isIndexed = (rest.getLastD segment).isIndexed := by
  -- by the segments that were found; each step leads where the original step leads
  induction h generalizing type with
  | last hFound =>
    have hStands := Profile.standsFor_of_respell? hProfile hFound
    -- what is found for the name is the name itself
    have hName := Option.some.inj (hStands.looked.symm.trans hNames.here)
    refine ⟨?_, hStands.isIndexed_eq⟩
    unfold propertyAlong
    rw [hName]
  | deeper hFound hStep _ ih =>
    have hStands := Profile.standsFor_of_respell? hProfile hFound
    have hName := Option.some.inj (hStands.looked.symm.trans hNames.here)
    obtain ⟨_, hChild⟩ := profile_of_step hStep
    have hSame := hStep
    rw [step_congr hName hStands.isIndexed_eq] at hSame
    rw [propertyAlong_cons hStep, propertyAlong_cons hSame, List.getLastD_cons, List.getLastD_cons]
    exact ih hChild (hNames.deeper hSame)

/-- Whether what is found can be used is never unclear. -/
theorem Respells.exists_has (h : source.Respells false profile segment rest found others)
    (direction : Direction) :
    ∃ answer, Introspect.found (source.propertyAlong direction profile found others) =
      .ok answer := by
  -- by the segments that were found, along which the walk has already been taken
  induction h with
  | last => exact ⟨_, Profile.found_property⟩
  | deeper _ hStep _ ih =>
    rw [propertyAlong_cons hStep]
    exact ih

end Source

/-! ## Gathered answers -/

namespace Profile

/-- The answers that are gathered about a path are those to the single questions. -/
theorem eval_resolveAt_eq_ok_iff {camelCase : Bool} {path : Path} {resolution : Resolution} :
    (profile.resolveAt camelCase path).eval source = .ok resolution ↔
      (profile.hasAt .getter path).eval source = .ok resolution.readable ∧
      (profile.hasAt .setter path).eval source = .ok resolution.writable ∧
      (profile.valueTypeAt resolution.readable resolution.writable path).eval source =
        .ok resolution.valueType? ∧
      (profile.findPath camelCase path).eval source = .ok resolution.canonical? := by
  unfold resolveAt
  -- the four questions are asked in turn, and each must have an answer
  rw [Inquiry.eval_bind, bind_eq_ok_iff]
  constructor
  · rintro ⟨readable, hReadable, h⟩
    rw [Inquiry.eval_bind] at h
    obtain ⟨writable, hWritable, h⟩ := bind_eq_ok_iff.mp h
    rw [Inquiry.eval_bind] at h
    obtain ⟨valueType?, hType, h⟩ := bind_eq_ok_iff.mp h
    rw [Inquiry.eval_bind] at h
    obtain ⟨canonical?, hPath, h⟩ := bind_eq_ok_iff.mp h
    cases h
    exact ⟨hReadable, hWritable, hType, hPath⟩
  · rintro ⟨hReadable, hWritable, hType, hPath⟩
    refine ⟨_, hReadable, ?_⟩
    rw [Inquiry.eval_bind, hWritable]
    show Inquiry.eval source (profile.valueTypeAt _ _ path >>= _) = _
    rw [Inquiry.eval_bind, hType]
    show Inquiry.eval source (profile.findPath camelCase path >>= _) = _
    rw [Inquiry.eval_bind, hPath]
    rfl

/-- Paths with the same properties at their ends, in both directions, have values of the same types.
-/
theorem eval_valueTypeAt_congr {path other : Path} {readable writable : Bool}
    (hWalk : ∀ direction, source.propertyAt direction profile path =
      source.propertyAt direction profile other)
    (hIndexed : (path.tail.getLastD path.head).isIndexed =
      (other.tail.getLastD other.head).isIndexed) :
    (profile.valueTypeAt readable writable path).eval source =
      (profile.valueTypeAt readable writable other).eval source := by
  have hType : ∀ direction, (profile.typeAt direction path).eval source =
      (profile.typeAt direction other).eval source := by
    intro direction
    rw [typeAt, typeAt, eval_typeAlong, eval_typeAlong, hIndexed]
    exact congrArg _ (hWalk direction)
  unfold valueTypeAt
  split
  · -- the type is that of the values that are read
    rw [Inquiry.eval_map, Inquiry.eval_map, hType]
  · split
    · -- the type is that of the values that are written
      rw [Inquiry.eval_map, Inquiry.eval_map, hType]
    · rfl

/-- Paths with the same property at their ends can be used alike. -/
theorem eval_hasAt_congr {path other : Path}
    (hWalk : source.propertyAt direction profile path =
      source.propertyAt direction profile other) :
    (profile.hasAt direction path).eval source = (profile.hasAt direction other).eval source := by
  rw [hasAt, hasAt, eval_hasAlong, eval_hasAlong]
  exact congrArg found hWalk

/-! ## What is found for a path that can be used -/

/-- All can be asked about what a search finds, and it can be used. -/
theorem exists_resolution_of_respells (hProfile : source.profile type = .ok profile)
    {path spelled : Path}
    (hFound : source.Respells false profile path.head path.tail spelled.head spelled.tail) :
    ∃ resolution, (profile.resolveAt false spelled).eval source = .ok resolution ∧
      (resolution.readable = true ∨ resolution.writable = true) ∧
      resolution.canonical? = some spelled := by
  have hHas : ∀ direction, ∃ answer, (profile.hasAt direction spelled).eval source = .ok answer := by
    intro direction
    obtain ⟨answer, hAnswer⟩ := hFound.exists_has direction
    exact ⟨answer, (eval_hasAlong _ _).trans hAnswer⟩
  -- neither question can fail any more, as the walk has been taken
  obtain ⟨readable, hReadable⟩ := hHas .getter
  obtain ⟨writable, hWritable⟩ := hHas .setter
  obtain ⟨valueType?, hType⟩ := eval_valueTypeAt hReadable hWritable
  have hAgain : (profile.findPath false spelled).eval source = .ok (some spelled) :=
    (eval_findPath_eq_some_iff hProfile).mpr (hFound.stable hProfile nofun)
  refine ⟨⟨readable, writable, valueType?, some spelled⟩,
    eval_resolveAt_eq_ok_iff.mpr ⟨hReadable, hWritable, hType, hAgain⟩, ?_, rfl⟩
  obtain ⟨direction, property, hProperty⟩ := hFound.exists_property hProfile
  have hUsed : (profile.hasAt direction spelled).eval source = .ok true :=
    eval_hasAt_eq_true_iff.mpr ⟨property, hProperty⟩
  -- the property that is found can be read or written
  cases direction with
  | getter => exact Or.inl (Except.ok.inj (hReadable.symm.trans hUsed))
  | setter => exact Or.inr (Except.ok.inj (hWritable.symm.trans hUsed))

/-- What can be used has a property at its end. -/
theorem exists_propertyAt_of_usable {path : Path} {resolution : Resolution}
    (hResolves : (profile.resolveAt false path).eval source = .ok resolution)
    (hUsable : resolution.readable = true ∨ resolution.writable = true) :
    ∃ direction property, source.propertyAt direction profile path = .ok property := by
  obtain ⟨hReadable, hWritable, -⟩ := eval_resolveAt_eq_ok_iff.mp hResolves
  rcases hUsable with hUsed | hUsed
  · rw [hUsed] at hReadable
    exact ⟨.getter, eval_hasAt_eq_true_iff.mp hReadable⟩
  · rw [hUsed] at hWritable
    exact ⟨.setter, eval_hasAt_eq_true_iff.mp hWritable⟩

/--
**What is found for a path that can be used** can be used as well, through whatever caches: it
resolves, and it is what is found for itself. Something is found whenever no name before the last is
shadowed by one that differs in case only; and if the last one is not shadowed either, all answers
about what is found are those about the path.
-/
theorem canonical_path_denotes {c₁ c₂ : Cache V} (h₁ : c₁.Reachable source)
    (h₂ : c₂.Reachable source) (hProfile : source.profile type = .ok profile) (text : String)
    (resolution : Resolution)
    (hResolves : ((profile.resolveAt false (.parse text)).run source c₁).1 = .ok resolution)
    (hUsable : resolution.readable = true ∨ resolution.writable = true) :
    (∀ spelled, resolution.canonical? = some spelled →
      ∃ again, ((profile.resolveAt false (.parse spelled.render)).run source c₂).1 = .ok again ∧
        (again.readable = true ∨ again.writable = true) ∧ again.canonical? = some spelled) ∧
    (source.Unshadowed profile (Path.parse text).segments.dropLast →
      ∃ spelled, resolution.canonical? = some spelled) ∧
    (source.Unshadowed profile (Path.parse text).segments →
      ∃ spelled, resolution.canonical? = some spelled ∧
        ((profile.resolveAt false (.parse spelled.render)).run source c₂).1 = .ok resolution) := by
  rw [h₁.run_eq_eval] at hResolves
  simp only [h₂.run_eq_eval]
  obtain ⟨hReadable, hWritable, hType, hPath⟩ := eval_resolveAt_eq_ok_iff.mp hResolves
  obtain ⟨direction, property, hProperty⟩ := exists_propertyAt_of_usable hResolves hUsable
  -- what is found has no dots in its segments, so its text spells it
  have hSpelled : ∀ spelled, resolution.canonical? = some spelled →
      source.Respells false profile (Path.parse text).head (Path.parse text).tail spelled.head
        spelled.tail ∧ Path.parse spelled.render = spelled := by
    intro spelled hCanonical
    rw [hCanonical] at hPath
    have hFound := (eval_findPath_eq_some_iff hProfile).mp hPath
    exact ⟨hFound, Path.parse_render (hFound.dot_notMem hProfile (Path.isCut_parse text))⟩
  have hExists : source.Unshadowed profile (Path.parse text).segments.dropLast →
      ∃ spelled, resolution.canonical? = some spelled := by
    intro hFront
    obtain ⟨found, others, hFound⟩ := Source.exists_respells hProfile hProperty hFront
    have hFinds : (profile.findPath false (.parse text)).eval source =
        .ok (some ⟨found, others⟩) := (eval_findPath_eq_some_iff hProfile).mpr hFound
    exact ⟨_, Except.ok.inj (hPath.symm.trans hFinds)⟩
  refine ⟨?_, hExists, ?_⟩
  · -- what is found is what is found for itself
    intro spelled hCanonical
    obtain ⟨hFound, hText⟩ := hSpelled spelled hCanonical
    rw [hText]
    exact exists_resolution_of_respells hProfile hFound
  · -- what is found goes the same way, so all that is asked about it has the same answers
    intro hNames
    obtain ⟨spelled, hCanonical⟩ := hExists hNames.dropLast
    obtain ⟨hFound, hText⟩ := hSpelled spelled hCanonical
    have hSame := fun direction => (hFound.propertyAlong_eq direction hProfile hNames).1
    have hIndexed := (hFound.propertyAlong_eq .getter hProfile hNames).2
    refine ⟨spelled, hCanonical, ?_⟩
    rw [hText]
    refine eval_resolveAt_eq_ok_iff.mpr ⟨?_, ?_, ?_, ?_⟩
    · exact (eval_hasAt_congr (hSame _)).trans hReadable
    · exact (eval_hasAt_congr (hSame _)).trans hWritable
    · exact (eval_valueTypeAt_congr hSame hIndexed).trans hType
    · rw [hCanonical]
      exact (eval_findPath_eq_some_iff hProfile).mpr (hFound.stable hProfile nofun)

/-- No property of an order or of a customer shadows one on the way to the customer's name, so what
is found for it denotes the same, though an index that was left open is closed. -/
theorem canonical_path_denotes_order :
    let fresh : Cache Value := .create .standard
    ∃ resolution spelled,
      ((Sample.orderProfile.resolveAt false (.parse "customer[.name")).run Sample.shop fresh).1 =
        .ok resolution ∧ resolution.canonical? = some spelled ∧
      spelled.render = "customer[].name" ∧
      ((Sample.orderProfile.resolveAt false (.parse spelled.render)).run Sample.shop fresh).1 =
        .ok resolution := by
  intro fresh
  have hCache : fresh.Reachable Sample.shop := .create _
  have hResolves : ((Sample.orderProfile.resolveAt false (.parse "customer[.name")).run Sample.shop
      fresh).1 = .ok ⟨true, true, some ⟨"String"⟩, some ⟨⟨"customer[]"⟩, [⟨"name"⟩]⟩⟩ :=
    (hCache.run_eq_eval _).trans (by cbv)
  have hNames : Sample.shop.Unshadowed Sample.orderProfile
      (Path.parse "customer[.name").segments := by
    have hSegments : (Path.parse "customer[.name").segments = [⟨"customer["⟩, ⟨"name"⟩] := by cbv
    rw [hSegments]
    refine Source.unshadowed_cons (by cbv) fun child hStep => ?_
    refine Source.unshadowed_cons ?_ fun _ _ => Source.unshadowed_nil
    -- the step is to customers, whatever they are called here
    have hFinds : (Sample.shop.step Sample.orderProfile ⟨"customer["⟩).map
        (·.findName? (Segment.mk "name").name) = .ok (some (Segment.mk "name").name) := by cbv
    rw [hStep] at hFinds
    exact Except.ok.inj hFinds
  obtain ⟨spelled, hCanonical, hAgain⟩ := (canonical_path_denotes hCache hCache
    Sample.profile_order _ _ hResolves (Or.inl rfl)).2.2 hNames
  cases hCanonical
  exact ⟨_, _, hResolves, rfl, by cbv, hAgain⟩

end Profile

namespace Sample

/-- A label, which has a number as its code and the same in letters as its other code. -/
def label : TypeName := ⟨"Label"⟩

/-- Labels, two fields of which differ in case only. -/
def labels : Source Value :=
  Catalog.toSource ⟨[{ Description.plain label .concrete with
    fields := [field label "code" ⟨"i64"⟩ true, field label "CODE" ⟨"String"⟩ true] }]⟩

/-- The profile of labels. -/
def labelProfile : Profile Value := profileOf labels label

theorem profile_label : labels.profile label = .ok labelProfile := by
  have hBuilt : (labels.profile label).isOk = true := by cbv
  exact profile_eq_profileOf hBuilt

end Sample

namespace Profile

/-- **What is found need not denote the same.** The code of a label in letters is shadowed by the
number, which is what is found for it. -/
theorem found_path_denotes_other :
    ¬∀ (source : Source Value) (type : TypeName) (profile : Profile Value) (text : String)
        (resolution : Resolution),
      source.profile type = .ok profile →
      ((profile.resolveAt false (.parse text)).run source (.create .standard)).1 =
        .ok resolution →
      resolution.readable = true ∨ resolution.writable = true →
      ∃ spelled again, resolution.canonical? = some spelled ∧
        ((profile.resolveAt false (.parse spelled.render)).run source (.create .standard)).1 =
          .ok again ∧
        again.readable = resolution.readable ∧ again.writable = resolution.writable ∧
        again.valueType? = resolution.valueType? := by
  intro hClaim
  have hCache : (Cache.create .standard : Cache Value).Reachable Sample.labels := .create _
  have hLetters : ((Sample.labelProfile.resolveAt false (.parse "CODE")).run Sample.labels
      (.create .standard)).1 = .ok ⟨true, true, some ⟨"String"⟩, some ⟨⟨"code"⟩, []⟩⟩ :=
    (hCache.run_eq_eval _).trans (by cbv)
  have hNumber : ((Sample.labelProfile.resolveAt false
      (.parse (⟨⟨"code"⟩, []⟩ : Path).render)).run Sample.labels (.create .standard)).1 =
        .ok ⟨true, true, some ⟨"i64"⟩, some ⟨⟨"code"⟩, []⟩⟩ :=
    (hCache.run_eq_eval _).trans (by cbv)
  obtain ⟨spelled, again, hCanonical, hAgain, -, -, hType⟩ := hClaim Sample.labels Sample.label
    Sample.labelProfile "CODE" _ Sample.profile_label hLetters (Or.inl rfl)
  -- what is found is the number, and its type is not that of the letters
  cases hCanonical
  cases hNumber.symm.trans hAgain
  simp at hType

end Profile

end Introspect
