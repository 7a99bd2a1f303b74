import Introspect.Proofs.Inquiry
import Introspect.Proofs.Profile.Settlement
import Introspect.Resolution

/-!
# The walk along a path

All questions about a path are answered by one walk: each segment but the last is read and leads to
the profile of a type, and the last one names a property there. `Source.propertyAlong` is that walk.
What it finds, or why it fails, decides every answer.

Main results:

* `eval_hasAlong`, `eval_typeAlong` and `eval_accessorAlong`: the answers are functions of the walk.
* `propertyAlong_error`: a walk fails at the first segment without the accessor that it needs, or
  at a type whose profile cannot be built.
-/

namespace Introspect

variable {V : Type}

/-! ## Walks -/

namespace Source

/-- The type that a segment leads to: that of the elements for an index into a collection whose
elements are known, otherwise that of the values. -/
def target (source : Source V) (indexed : Bool) (type : TypeExpr) : TypeName :=
  if indexed && source.isCollection type.valueType then type.elementType?.getD type.valueType
  else type.valueType

/-- The profile that one segment leads to when it is read. -/
def step (source : Source V) (profile : Profile V) (segment : Segment) :
    Except PropertyError (Profile V) := do
  let property ← profile.readProperty segment.name
  source.profile (source.target segment.isIndexed property.type)

/-- The profile that some segments lead to when each of them is read. -/
def follow (source : Source V) (profile : Profile V) (segments : List Segment) :
    Except PropertyError (Profile V) :=
  segments.foldlM source.step profile

/-- The property that the last of some segments names, all others being read. -/
def propertyAlong (source : Source V) (direction : Direction) (profile : Profile V)
    (segment : Segment) : List Segment → Except PropertyError (Property V)
  | [] => profile.property direction segment.name
  | next :: rest => do
    let child ← source.step profile segment
    source.propertyAlong direction child next rest

/-- The property at the end of a path. -/
def propertyAt (source : Source V) (direction : Direction) (profile : Profile V) (path : Path) :
    Except PropertyError (Property V) :=
  source.propertyAlong direction profile path.head path.tail

end Source

/-- Whether something was found; a missing accessor counts as an answer. -/
def found {α : Type} : Except PropertyError α → Except PropertyError Bool
  | .ok _ => .ok true
  | .error (.noAccessor ..) => .ok false
  | .error cause => .error cause

/-- Whether something was found is unclear only where a profile cannot be built. -/
theorem found_of_isAmbiguous {α : Type} {cause : PropertyError} (h : cause.isAmbiguous = true) :
    found (.error cause : Except PropertyError α) = .error cause := by
  cases cause <;> first | rfl | cases h

section Outcomes

variable {α β γ : Type} {outcome : Except PropertyError α}

/-- What is found is there. -/
theorem exists_of_found (h : found outcome = .ok true) : ∃ item, outcome = .ok item := by
  cases outcome with
  | ok item => exact ⟨item, rfl⟩
  | error cause => cases cause <;> cases h

/-- Something is found exactly where anything that is asked about it has an answer. -/
theorem found_eq_true_iff (ask : α → β) :
    found outcome = .ok true ↔ ∃ answer, ask <$> outcome = .ok answer := by
  cases outcome with
  | ok item => simp [found]
  | error cause => cases cause <;> simp [found]

/-- Nothing is found exactly where nothing can be asked for want of an accessor. -/
theorem found_eq_false_iff (ask : α → β) (askToo : α → γ) :
    found outcome = .ok false ↔ ∃ kind name owner,
      ask <$> outcome = .error (.noAccessor kind name owner) ∧
        askToo <$> outcome = .error (.noAccessor kind name owner) := by
  cases outcome with
  | ok item => simp [found]
  | error cause => cases cause <;> simp [found]

/-- Where only missing accessors and ambiguities get in the way, the ambiguities are what is left.
-/
theorem found_eq_error_iff (ask : α → β) (askToo : α → γ)
    (hCauses : ∀ cause, outcome = .error cause →
      (∃ kind name owner, cause = .noAccessor kind name owner) ∨ cause.isAmbiguous = true)
    (cause : PropertyError) :
    found outcome = .error cause ↔ cause.isAmbiguous = true ∧
      ask <$> outcome = .error cause ∧ askToo <$> outcome = .error cause := by
  -- an outcome is one of three: something found, an accessor missing, or an ambiguity
  cases outcome with
  | ok item => simp [found]
  | error other =>
    rcases hCauses other rfl with ⟨kind, name, owner, rfl⟩ | hAmbiguous
    · -- a missing accessor is an answer, and it is no ambiguity
      constructor
      · intro hFound
        cases hFound
      · rintro ⟨hAmbiguous, hSame, -⟩
        cases hSame
        cases hAmbiguous
    · rw [found_of_isAmbiguous hAmbiguous]
      constructor
      · intro hSame
        cases hSame
        exact ⟨hAmbiguous, rfl, rfl⟩
      · rintro ⟨-, hSame, -⟩
        cases hSame
        rfl

end Outcomes

/-! ## Single steps -/

namespace Profile

variable {source : Source V} {profile : Profile V} {direction : Direction} {name : String}

/-- A property that is read is one that is readable. -/
theorem readProperty_eq_ok_iff {property : Property V} :
    profile.readProperty name = .ok property ↔ profile.readable.find? name = some property := by
  unfold readProperty
  split
  · rename_i held hFound
    simp [hFound]
  · rename_i hNone
    simp [hNone]

/-- A profile has an accessor exactly where asking for it gives one. -/
theorem has_eq_isOk : profile.has direction name = (profile.property direction name).isOk := by
  cases direction with
  | getter =>
    show (profile.readable.find? name).isSome = (profile.readProperty name).isOk
    unfold readProperty
    cases profile.readable.find? name <;> rfl
  | setter =>
    show (profile.writable.find? name).isSome = (profile.writeProperty name).isOk
    unfold writeProperty
    cases profile.writable.find? name <;> rfl

/-- Where a property is given, there is one. -/
theorem has_of_property_eq_ok {property : Property V}
    (h : profile.property direction name = .ok property) : profile.has direction name = true := by
  rw [has_eq_isOk, h]
  rfl

/-- Reading fails for one reason only. -/
theorem readProperty_error {cause : PropertyError} (h : profile.readProperty name = .error cause) :
    cause = .noAccessor .getter name profile.type ∧ profile.has .getter name = false := by
  unfold readProperty at h
  split at h
  · cases h
  · rename_i hNone
    cases h
    refine ⟨rfl, ?_⟩
    show (profile.readable.find? name).isSome = false
    rw [hNone]
    rfl

/-- Writing fails for one reason only. -/
theorem writeProperty_error {cause : PropertyError}
    (h : profile.writeProperty name = .error cause) :
    cause = .noAccessor .setter name profile.type ∧ profile.has .setter name = false := by
  unfold writeProperty at h
  split at h
  · cases h
  · rename_i hNone
    cases h
    refine ⟨rfl, ?_⟩
    show (profile.writable.find? name).isSome = false
    rw [hNone]
    rfl

/-- A property is missing in the direction that was asked for. -/
theorem property_error {cause : PropertyError}
    (h : profile.property direction name = .error cause) :
    cause = .noAccessor direction name profile.type ∧ profile.has direction name = false := by
  cases direction with
  | getter => exact readProperty_error h
  | setter => exact writeProperty_error h

/-- Whether an accessor is found is whether there is one. -/
theorem found_property :
    found (profile.property direction name) = .ok (profile.has direction name) := by
  cases hProperty : profile.property direction name with
  | ok property => rw [has_eq_isOk, hProperty]; rfl
  | error cause =>
    obtain ⟨rfl, hMissing⟩ := property_error hProperty
    rw [hMissing]
    rfl

/-- Which type a segment leads to is asked by one look at most, and answered as the source has it.
-/
theorem eval_targetType (indexed : Bool) (type : TypeExpr) :
    (targetType indexed type : Inquiry V TypeName).eval source =
      .ok (source.target indexed type) := by
  cases indexed with
  | false => rfl
  | true =>
    unfold targetType Source.target
    rw [if_pos rfl, Inquiry.eval_bind, Inquiry.eval_isCollection, Bool.true_and]
    show Inquiry.eval source (if source.isCollection type.valueType = true then _ else _) = _
    split <;> rfl

/-- A child is built where there is a property to read, and otherwise there is none. -/
theorem eval_child? (name : String) (indexed : Bool) :
    (profile.child? name indexed).eval source =
      match profile.readProperty name with
      | .ok property => some <$> source.profile (source.target indexed property.type)
      | .error _ => .ok none := by
  unfold child? readProperty
  cases profile.readable.find? name with
  | none => rfl
  | some property =>
    dsimp only
    rw [Inquiry.eval_bind, eval_targetType]
    show (Inquiry.profile _ >>= fun child => pure (some child)).eval source = _
    rw [Inquiry.eval_bind, Inquiry.eval_profile]
    cases source.profile (source.target indexed property.type) <;> rfl

/-- A child that has to be there is the step along its segment. -/
theorem eval_child (segment : Segment) :
    (profile.child segment.name segment.isIndexed).eval source = source.step profile segment := by
  unfold child Source.step
  rw [Inquiry.eval_bind, eval_child?]
  unfold readProperty
  cases profile.readable.find? segment.name with
  | none => rfl
  | some property =>
    show (some <$> source.profile (source.target segment.isIndexed property.type)) >>= _ =
      source.profile (source.target segment.isIndexed property.type)
    cases source.profile (source.target segment.isIndexed property.type) <;> rfl

/-! ## Answers as functions of the walk -/

/-- **Whether a path can be used** is whether its walk finds a property. -/
theorem eval_hasAlong (segment : Segment) (rest : List Segment) :
    (profile.hasAlong direction segment rest).eval source =
      found (source.propertyAlong direction profile segment rest) := by
  -- along the segments: both sides take the same step, or stop at the same segment
  induction rest generalizing profile segment with
  | nil =>
    rw [Source.propertyAlong, found_property]
    rfl
  | cons next rest ih =>
    -- the first segment is asked for a child, and its step is the same read and the same build
    rw [hasAlong, Source.propertyAlong, Inquiry.eval_bind, eval_child?]
    unfold Source.step
    cases hProperty : profile.readProperty segment.name with
    | error cause =>
      obtain ⟨rfl, -⟩ := readProperty_error hProperty
      rfl
    | ok property =>
      dsimp only [bind, Except.bind]
      -- a nested profile that cannot be built is the one failure that both sides let through
      cases hChild : source.profile (source.target segment.isIndexed property.type) with
      | ok child => exact ih next
      | error cause => exact (found_of_isAmbiguous (Source.isAmbiguous_of_profile hChild)).symm

/-- A path can be used in a direction where a property is at its end. -/
theorem eval_hasAt_eq_true_iff {path : Path} :
    (profile.hasAt direction path).eval source = .ok true ↔
      ∃ property, source.propertyAlong direction profile path.head path.tail = .ok property := by
  rw [hasAt, eval_hasAlong]
  constructor
  · exact exists_of_found
  · rintro ⟨property, hProperty⟩
    rw [hProperty]
    rfl

/-- **The accessor of a path** is that of the property that its walk finds. -/
theorem eval_accessorAlong (segment : Segment) (rest : List Segment) :
    (profile.accessorAlong direction segment rest).eval source =
      Property.accessor <$> source.propertyAlong direction profile segment rest := by
  -- along the segments, the last of which is the one that is asked about
  induction rest generalizing profile segment with
  | nil =>
    rw [accessorAlong, Source.propertyAlong, Inquiry.eval_bind, Inquiry.eval_ofExcept]
    cases profile.property direction segment.name <;> rfl
  | cons next rest ih =>
    rw [accessorAlong, Source.propertyAlong, Inquiry.eval_bind, eval_child]
    -- both sides stop where the step fails
    cases source.step profile segment with
    | ok child => exact ih next
    | error cause => rfl

/-- **The type of a path** is read off the property that its walk finds and the index of its last
segment. -/
theorem eval_typeAlong (segment : Segment) (rest : List Segment) :
    (profile.typeAlong direction segment rest).eval source =
      (fun property => source.target (rest.getLastD segment).isIndexed property.type) <$>
        source.propertyAlong direction profile segment rest := by
  -- along the segments; the last segment is the last one of the rest as well
  induction rest generalizing profile segment with
  | nil =>
    rw [typeAlong, Source.propertyAlong, Inquiry.eval_bind, Inquiry.eval_ofExcept]
    cases profile.property direction segment.name with
    | ok property => exact eval_targetType _ _
    | error cause => rfl
  | cons next rest ih =>
    rw [typeAlong, Source.propertyAlong, Inquiry.eval_bind, eval_child, List.getLastD_cons]
    cases source.step profile segment with
    | ok child => exact ih next
    | error cause => rfl

end Profile

/-! ## Walks that fail -/

/-- The types that readable properties lead to from a profile, in one step or more. -/
inductive Nested (source : Source V) : Profile V → TypeName → Prop where
  | direct {profile : Profile V} {name : String} {property : Property V} (indexed : Bool)
      (hProperty : profile.readable.find? name = some property) :
      Nested source profile (source.target indexed property.type)
  | deeper {profile child : Profile V} {name : String} {property : Property V} {type : TypeName}
      (indexed : Bool) (hProperty : profile.readable.find? name = some property)
      (hChild : source.profile (source.target indexed property.type) = .ok child)
      (hBelow : Nested source child type) : Nested source profile type

namespace Source

variable {source : Source V} {profile : Profile V} {direction : Direction}

/-- The direction that a segment is needed in, given those after it. -/
def needed (direction : Direction) : List Segment → Direction
  | [] => direction
  | _ :: _ => .getter

/-- An accessor is missing at the first segment that does not have the one it needs; all segments
before it can be read. -/
def Misses (source : Source V) (direction : Direction) (profile : Profile V)
    (segments : List Segment) (kind : Direction) (name : String) (owner : TypeName) : Prop :=
  ∃ before missing after reached, segments = before ++ missing :: after ∧
    source.follow profile before = .ok reached ∧ kind = needed direction after ∧
    name = missing.name ∧ owner = reached.type ∧ reached.has kind name = false

/-- The profile of a nested type cannot be built, and for no other reason than an ambiguity. -/
def Blocks (source : Source V) (profile : Profile V) (cause : PropertyError) : Prop :=
  cause.isAmbiguous = true ∧ ∃ type, Nested source profile type ∧ source.profile type = .error cause

/-- Segments are followed one after the other. -/
theorem follow_cons {child : Profile V} {segment : Segment} (rest : List Segment)
    (hStep : source.step profile segment = .ok child) :
    source.follow profile (segment :: rest) = source.follow child rest := by
  rw [follow, List.foldlM_cons, hStep]
  rfl

/-- A walk goes on where its first step leads. -/
theorem propertyAlong_cons {child : Profile V} {segment next : Segment} {rest : List Segment}
    (hStep : source.step profile segment = .ok child) :
    source.propertyAlong direction profile segment (next :: rest) =
      source.propertyAlong direction child next rest := by
  rw [propertyAlong, hStep]
  rfl

/-- What a readable property leads to cannot be built, and is in the way. -/
theorem Blocks.direct {name : String} {property : Property V} {indexed : Bool}
    {cause : PropertyError} (hProperty : profile.readable.find? name = some property)
    (h : source.profile (source.target indexed property.type) = .error cause) :
    source.Blocks profile cause :=
  ⟨isAmbiguous_of_profile h, _, .direct indexed hProperty, h⟩

/-- What is in the way below a child is in the way above it. -/
theorem Blocks.deeper {name : String} {property : Property V} {indexed : Bool} {child : Profile V}
    {cause : PropertyError} (hProperty : profile.readable.find? name = some property)
    (hChild : source.profile (source.target indexed property.type) = .ok child)
    (h : source.Blocks child cause) : source.Blocks profile cause := by
  obtain ⟨hAmbiguous, type, hNested, hFails⟩ := h
  exact ⟨hAmbiguous, type, .deeper indexed hProperty hChild hNested, hFails⟩

/-- A step fails where the segment cannot be read, or at the type that it leads to. -/
theorem step_error {segment : Segment} {cause : PropertyError}
    (h : source.step profile segment = .error cause) :
    (cause = .noAccessor .getter segment.name profile.type ∧
      profile.has .getter segment.name = false) ∨ source.Blocks profile cause := by
  unfold step at h
  cases hProperty : profile.readProperty segment.name with
  | error other =>
    rw [hProperty] at h
    cases h
    exact Or.inl (Profile.readProperty_error hProperty)
  | ok property =>
    rw [hProperty] at h
    exact Or.inr (.direct (Profile.readProperty_eq_ok_iff.mp hProperty) h)

/-- A step reads a property and builds the type that it leads to. -/
theorem step_ok {segment : Segment} {child : Profile V}
    (h : source.step profile segment = .ok child) :
    ∃ property, profile.readable.find? segment.name = some property ∧
      source.profile (source.target segment.isIndexed property.type) = .ok child := by
  unfold step at h
  cases hProperty : profile.readProperty segment.name with
  | error other =>
    rw [hProperty] at h
    cases h
  | ok property =>
    rw [hProperty] at h
    exact ⟨property, Profile.readProperty_eq_ok_iff.mp hProperty, h⟩

/-- What is missing below a child is missing above it, one segment later. -/
theorem Misses.deeper {segment : Segment} {child : Profile V} {rest : List Segment}
    {kind : Direction} {name : String} {owner : TypeName}
    (hStep : source.step profile segment = .ok child)
    (h : source.Misses direction child rest kind name owner) :
    source.Misses direction profile (segment :: rest) kind name owner := by
  obtain ⟨before, missing, after, reached, rfl, hFollow, hRest⟩ := h
  exact ⟨segment :: before, missing, after, reached, rfl, by rwa [follow_cons before hStep], hRest⟩

/-- A walk ends with the property that its last segment names where the others lead. -/
theorem propertyAlong_eq_follow {before : List Segment} {last segment : Segment}
    {rest : List Segment} (hSegments : segment :: rest = before ++ [last]) :
    source.propertyAlong direction profile segment rest =
      source.follow profile before >>= fun reached => reached.property direction last.name := by
  -- along the segments before the last, each of which is a step
  induction before generalizing profile segment rest with
  | nil =>
    cases hSegments
    rfl
  | cons first before ih =>
    obtain ⟨rfl, hRest⟩ := List.cons.inj hSegments
    -- the last segment is still to come, so the walk takes a step
    obtain ⟨next, others, rfl⟩ : ∃ next others, rest = next :: others :=
      List.exists_cons_of_ne_nil (hRest ▸ List.concat_ne_nil last before)
    rw [propertyAlong]
    cases hStep : source.step profile segment with
    | error cause =>
      rw [follow, List.foldlM_cons, hStep]
      rfl
    | ok child =>
      rw [follow_cons before hStep]
      exact ih hRest

/-- **Why a walk fails**: at the first segment without the accessor that it needs, or at a nested
type whose profile cannot be built. -/
theorem propertyAlong_error {segment : Segment} {rest : List Segment} {cause : PropertyError}
    (h : source.propertyAlong direction profile segment rest = .error cause) :
    (∃ kind name owner, cause = .noAccessor kind name owner ∧
      source.Misses direction profile (segment :: rest) kind name owner) ∨
    source.Blocks profile cause := by
  -- along the segments, the profile being the one that those before have led to
  induction rest generalizing profile segment with
  | nil =>
    obtain ⟨rfl, hMissing⟩ := Profile.property_error h
    exact Or.inl ⟨_, _, _, rfl, [], segment, [], profile, rfl, rfl, rfl, rfl, rfl, hMissing⟩
  | cons next rest ih =>
    rw [propertyAlong] at h
    cases hStep : source.step profile segment with
    | error other =>
      -- the walk ends with its first step
      rw [hStep] at h
      cases h
      rcases step_error hStep with ⟨rfl, hMissing⟩ | hBlocks
      · exact Or.inl ⟨_, _, _, rfl, [], segment, next :: rest, profile, rfl, rfl, rfl, rfl, rfl,
          hMissing⟩
      · exact Or.inr hBlocks
    | ok child =>
      -- it is the walk of the child that fails
      rw [hStep] at h
      rcases ih h with ⟨kind, name, owner, hCause, hMisses⟩ | hBlocks
      · exact Or.inl ⟨kind, name, owner, hCause, hMisses.deeper hStep⟩
      · obtain ⟨property, hProperty, hChild⟩ := step_ok hStep
        exact Or.inr (hBlocks.deeper hProperty hChild)

end Source

end Introspect
