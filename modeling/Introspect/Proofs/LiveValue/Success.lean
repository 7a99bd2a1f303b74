import Introspect.Proofs.LiveValue.Writability

/-!
# Accesses that succeed

An access along a path is a walk over values and over the profiles of their types at the same time.
When it succeeds it has taken one of a few courses, and these are stated here once, as relations;
all that is said about accesses that succeed is read off them, segment by segment.

* `Profile.Gets` and `Profile.Sets`: a property is read, a property is written.
* `Source.Reads`: a read ends at the last segment, stops at a value that is absent, or goes below.
* `Source.Writes`: a write ends at the last segment, has nothing to do below a value that is absent,
  or goes below and writes back what it finds there.
* `Source.Throughout`: what holds of the profile of every type that an access can come to.

Main results:

* `eval_readAlong_eq_ok_iff` and `eval_writeAlong_eq_ok_iff`: the relations are what succeeds.
-/

namespace Introspect

variable {V : Type} {source : Source V} {profile child : Profile V} {name : String}
  {segment next : Segment} {rest : List Segment} {object after : V} {value : Option V}

namespace Profile

/-! ## Single properties -/

/-- Reading a property of an object gives a value. -/
def Gets (profile : Profile V) (name : String) (object : V) (value : Option V) : Prop :=
  ∃ property, profile.readable.find? name = some property ∧
    property.accessor.get object = .ok value

/-- Writing a property of an object succeeds and leaves the object as `after`. -/
def Sets (profile : Profile V) (name : String) (object : V) (value : Option V) (after : V) : Prop :=
  ∃ property, profile.writable.find? name = some property ∧
    property.accessor.set object value = (after, .ok ())

/-- The instance that a write goes on with: the one that is there, or a new one. -/
def Starts (child : Profile V) : Option V → V → Prop
  | some held, start => start = held
  | none, start => child.constructor? = some start

/-- A property of an object has one value. -/
theorem Gets.unique {other : Option V} (h : profile.Gets name object value)
    (hOther : profile.Gets name object other) : value = other := by
  -- one property stands under the name, and its body reads one value
  obtain ⟨property, hProperty, hGet⟩ := h
  obtain ⟨property', hProperty', hGet'⟩ := hOther
  rw [hProperty] at hProperty'
  cases hProperty'
  rw [hGet] at hGet'
  exact Except.ok.inj hGet'

/-- Writing a value under a name leaves one object. -/
theorem Sets.unique {other : V} (h : profile.Sets name object value after)
    (hOther : profile.Sets name object value other) : after = other := by
  obtain ⟨property, hProperty, hSet⟩ := h
  obtain ⟨property', hProperty', hSet'⟩ := hOther
  rw [hProperty] at hProperty'
  cases hProperty'
  rw [hSet] at hSet'
  exact congrArg Prod.fst hSet'

/-- A write goes on in one instance. -/
theorem Starts.unique {current : Option V} {start other : V} (h : child.Starts current start)
    (hOther : child.Starts current other) : start = other := by
  cases current with
  | some held => exact h.trans hOther.symm
  | none => exact Option.some.inj (h.symm.trans hOther)

/-- A property is found for writing where the profile lists it. -/
theorem writeProperty_eq_ok_iff {property : Property V} :
    profile.writeProperty name = .ok property ↔ profile.writable.find? name = some property := by
  unfold writeProperty
  split
  · rename_i held hFound
    simp [hFound]
  · rename_i hNone
    simp [hNone]

/-- Reading a property succeeds where the property is there and its body reads. -/
theorem readStep_eq_ok_iff :
    (profile.readStep object name).eval source = .ok value ↔ profile.Gets name object value := by
  -- the property is looked for first, and then its body is asked
  unfold readStep Gets
  rw [Inquiry.eval_bind, Inquiry.eval_ofExcept, bind_eq_ok_iff]
  refine exists_congr fun property => and_congr readProperty_eq_ok_iff ?_
  cases hGet : property.accessor.get object <;> simp

/-- Writing a property succeeds where the property is there and its body writes. -/
theorem writeStep_eq_ok_iff :
    (profile.writeStep object name value).eval source = .ok (after, .ok ()) ↔
      profile.Sets name object value after := by
  unfold writeStep Sets
  rw [Inquiry.eval_bind, Inquiry.eval_ofExcept, bind_eq_ok_iff]
  refine exists_congr fun property => and_congr writeProperty_eq_ok_iff ?_
  rcases property.accessor.set object value with ⟨left, cause | success⟩ <;> simp

/-- A value below is found where there is one or where one can be made. -/
theorem valueBelow_eq_ok_iff {current : Option V} {start : V} :
    (child.valueBelow name current).eval source = .ok start ↔ child.Starts current start := by
  cases current with
  -- a value that is there is gone on with, and nothing has to be made
  | some held =>
    show (Except.ok held : Except PropertyError V) = .ok start ↔ start = held
    rw [Except.ok.injEq, eq_comm]
  | none =>
    show (Inquiry.ofExcept child.newInstance : Inquiry V V).eval source = .ok start ↔
      child.constructor? = some start
    rw [Inquiry.eval_ofExcept]
    unfold newInstance
    cases child.constructor? <;> simp

/-- A write goes on unless there is neither a value to go on in nor one to write. -/
theorem isNone_and_isNone_eq_false_iff {current : Option V} :
    (current.isNone && value.isNone) = false ↔ current.isSome ∨ value.isSome := by
  cases current <;> cases value <;> simp

/-! ## One level of an access -/

/-- One level of a read: the value is read, and the read goes on below it if it is there. -/
theorem eval_readAlong_cons (hPlain : segment.isIndexed = false) :
    (profile.readAlong object segment (next :: rest)).eval source = (do
      match ← (profile.readStep object segment.name).eval source with
      | none => .ok none
      | some held =>
        let child ← source.step profile segment
        (child.readAlong held next rest).eval source) := by
  -- an index would have ended the read at this segment
  rw [readAlong, Inquiry.eval_bind, eval_plainName, hPlain]
  show (profile.readStep object segment.name >>= _ : Inquiry V _).eval source = _
  rw [Inquiry.eval_bind]
  cases (profile.readStep object segment.name).eval source with
  | error cause => rfl
  | ok current =>
    cases current with
    | none => rfl
    | some held =>
      show (profile.valueProfile segment.name >>= _ : Inquiry V _).eval source = _
      rw [Inquiry.eval_bind, eval_valueProfile hPlain]
      rfl

/-- A read along one segment is the read of its property. -/
theorem eval_readAlong_nil (hPlain : segment.isIndexed = false) :
    (profile.readAlong object segment []).eval source =
      (profile.readStep object segment.name).eval source := by
  rw [readAlong, Inquiry.eval_bind, eval_plainName, hPlain]
  rfl

/-- A write along one segment is the write of its property. -/
theorem eval_writeAlong_nil (hPlain : segment.isIndexed = false) :
    (profile.writeAlong object segment value []).eval source =
      (profile.writeStep object segment.name value).eval source := by
  rw [writeAlong, Inquiry.eval_bind, eval_plainName, hPlain]
  rfl

theorem eval_readAlong_indexed (hIndexed : segment.isIndexed = true) :
    (profile.readAlong object segment rest).eval source = .error (.indexedValue segment.text) := by
  cases rest <;> rw [readAlong, Inquiry.eval_bind, eval_plainName, hIndexed] <;> rfl

theorem eval_writeAlong_indexed (hIndexed : segment.isIndexed = true) :
    (profile.writeAlong object segment value rest).eval source =
      .error (.indexedValue segment.text) := by
  cases rest <;> rw [writeAlong, Inquiry.eval_bind, eval_plainName, hIndexed] <;> rfl

/-- A read that does not fail at its first segment begins at one without an index. -/
theorem plain_of_readAlong {outcome : Except PropertyError (Option V)}
    (h : (profile.readAlong object segment rest).eval source = outcome)
    (hOther : outcome ≠ .error (.indexedValue segment.text)) : segment.isIndexed = false := by
  -- at an index the read would have failed with just the error that is excluded
  cases hIndexed : segment.isIndexed with
  | false => rfl
  | true => exact absurd (h.symm.trans (eval_readAlong_indexed hIndexed)) hOther

/-- A write that does not fail at its first segment begins at one without an index. -/
theorem plain_of_writeAlong {outcome : Except PropertyError (V × Except PropertyError Unit)}
    (h : (profile.writeAlong object segment value rest).eval source = outcome)
    (hOther : outcome ≠ .error (.indexedValue segment.text)) : segment.isIndexed = false := by
  cases hIndexed : segment.isIndexed with
  | false => rfl
  | true => exact absurd (h.symm.trans (eval_writeAlong_indexed hIndexed)) hOther

end Profile

/-! ## Reads and writes that succeed -/

namespace Source

/-- A read along some segments that succeeds, and the value that it gives. -/
inductive Reads (source : Source V) :
    Profile V → V → Segment → List Segment → Option V → Prop where
  /-- The last segment names the property that is read. -/
  | last {profile : Profile V} {object : V} {segment : Segment} {value : Option V}
      (hPlain : segment.isIndexed = false) (hGets : profile.Gets segment.name object value) :
      Reads source profile object segment [] value
  /-- A value on the way is absent, and so is the answer. -/
  | absent {profile : Profile V} {object : V} {segment next : Segment} {rest : List Segment}
      (hPlain : segment.isIndexed = false) (hGets : profile.Gets segment.name object none) :
      Reads source profile object segment (next :: rest) none
  /-- The read goes on in the value that is there. -/
  | deeper {profile child : Profile V} {object held : V} {segment next : Segment}
      {rest : List Segment} {value : Option V} (hPlain : segment.isIndexed = false)
      (hGets : profile.Gets segment.name object (some held))
      (hStep : source.step profile segment = .ok child)
      (hBelow : Reads source child held next rest value) :
      Reads source profile object segment (next :: rest) value

/-- A write of a value along some segments that succeeds, and the object that it leaves. -/
inductive Writes (source : Source V) :
    Profile V → V → Segment → List Segment → Option V → V → Prop where
  /-- The last segment names the property that is written. -/
  | last {profile : Profile V} {object after : V} {segment : Segment} {value : Option V}
      (hPlain : segment.isIndexed = false)
      (hSets : profile.Sets segment.name object value after) :
      Writes source profile object segment [] value after
  /-- Where a value on the way is absent, nothing is written to make another one absent. -/
  | absent {profile child : Profile V} {object : V} {segment next : Segment} {rest : List Segment}
      (hPlain : segment.isIndexed = false) (hStep : source.step profile segment = .ok child)
      (hGets : profile.Gets segment.name object none) :
      Writes source profile object segment (next :: rest) none object
  /-- The write goes on in the value that is there, or in a new one, and that is written back. -/
  | deeper {profile child : Profile V} {object start held after : V} {current value : Option V}
      {segment next : Segment} {rest : List Segment} (hPlain : segment.isIndexed = false)
      (hStep : source.step profile segment = .ok child)
      (hGets : profile.Gets segment.name object current)
      (hPresent : current.isSome ∨ value.isSome) (hStarts : child.Starts current start)
      (hBelow : Writes source child start next rest value held)
      (hSets : profile.Sets segment.name object (some held) after) :
      Writes source profile object segment (next :: rest) value after

end Source

namespace Profile

/-- **What a read that succeeds has done.** -/
theorem eval_readAlong_eq_ok_iff :
    (profile.readAlong object segment rest).eval source = .ok value ↔
      source.Reads profile object segment rest value := by
  -- by the segments behind the first, which are those that the read goes on along
  induction rest generalizing profile object segment with
  | nil =>
    constructor
    · intro h
      have hPlain := plain_of_readAlong h nofun
      rw [eval_readAlong_nil hPlain, readStep_eq_ok_iff] at h
      exact .last hPlain h
    · rintro ⟨hPlain, hGets⟩
      rw [eval_readAlong_nil hPlain]
      exact readStep_eq_ok_iff.mpr hGets
  | cons next rest ih =>
    constructor
    · intro h
      have hPlain := plain_of_readAlong h nofun
      rw [eval_readAlong_cons hPlain] at h
      obtain ⟨current, hCurrent, hOn⟩ := bind_eq_ok_iff.mp h
      -- what was read decides whether the read goes on at all
      have hGets := readStep_eq_ok_iff.mp hCurrent
      cases current with
      | none =>
        cases hOn
        exact .absent hPlain hGets
      | some held =>
        obtain ⟨child, hStep, hBelow⟩ := bind_eq_ok_iff.mp hOn
        exact .deeper hPlain hGets hStep (ih.mp hBelow)
    · intro h
      cases h with
      | absent hPlain hGets =>
        have hCurrent : (profile.readStep object segment.name).eval source = .ok none :=
          readStep_eq_ok_iff.mpr hGets
        rw [eval_readAlong_cons hPlain, hCurrent]
        rfl
      | @deeper _ _ _ held _ _ _ _ hPlain hGets hStep hBelow =>
        have hCurrent : (profile.readStep object segment.name).eval source = .ok (some held) :=
          readStep_eq_ok_iff.mpr hGets
        rw [eval_readAlong_cons hPlain, hCurrent]
        simp only [bind, Except.bind, hStep]
        exact ih.mpr hBelow

/-- **What a write that succeeds has done.** -/
theorem eval_writeAlong_eq_ok_iff :
    (profile.writeAlong object segment value rest).eval source = .ok (after, .ok ()) ↔
      source.Writes profile object segment rest value after := by
  -- by the segments behind the first, which are those that the write goes on along
  induction rest generalizing profile object segment after with
  | nil =>
    constructor
    · intro h
      have hPlain := plain_of_writeAlong h nofun
      rw [eval_writeAlong_nil hPlain, writeStep_eq_ok_iff] at h
      exact .last hPlain h
    · rintro ⟨hPlain, hSets⟩
      rw [eval_writeAlong_nil hPlain]
      exact writeStep_eq_ok_iff.mpr hSets
  | cons next rest ih =>
    constructor
    · intro h
      have hPlain := plain_of_writeAlong h nofun
      rw [eval_writeAlong_cons hPlain] at h
      -- each step that fails ends the write, so all of them have succeeded
      obtain ⟨child, hStep, hFrom⟩ := bind_eq_ok_iff.mp h
      obtain ⟨current, hCurrent, hOn⟩ := bind_eq_ok_iff.mp hFrom
      have hGets := readStep_eq_ok_iff.mp hCurrent
      split at hOn
      · -- there is nothing to write and nothing to write it into
        rename_i hAbsent
        rw [Bool.and_eq_true, Option.isNone_iff_eq_none, Option.isNone_iff_eq_none] at hAbsent
        obtain ⟨rfl, rfl⟩ := hAbsent
        cases hOn
        exact .absent hPlain hStep hGets
      · -- the write goes on in a value, is made below it and written back
        rename_i hPresent
        rw [Bool.not_eq_true, isNone_and_isNone_eq_false_iff] at hPresent
        obtain ⟨start, hStart, hIn⟩ := bind_eq_ok_iff.mp hOn
        obtain ⟨⟨held, failure⟩, hBelow, hBack⟩ := bind_eq_ok_iff.mp hIn
        cases failure with
        | error cause => cases hBack
        | ok success =>
          exact .deeper hPlain hStep hGets hPresent (valueBelow_eq_ok_iff.mp hStart)
            (ih.mp hBelow) (writeStep_eq_ok_iff.mp hBack)
    · intro h
      cases h with
      | absent hPlain hStep hGets =>
        have hCurrent : (profile.readStep object segment.name).eval source = .ok none :=
          readStep_eq_ok_iff.mpr hGets
        rw [eval_writeAlong_cons hPlain, hStep]
        simp only [bind, Except.bind, hCurrent]
        rfl
      | @deeper _ child _ start held _ current _ _ _ _ hPlain hStep hGets hPresent hStarts hBelow
          hSets =>
        have hCurrent : (profile.readStep object segment.name).eval source = .ok current :=
          readStep_eq_ok_iff.mpr hGets
        have hStart : (child.valueBelow segment.name current).eval source = .ok start :=
          valueBelow_eq_ok_iff.mpr hStarts
        have hHeld : (child.writeAlong start next value rest).eval source = .ok (held, .ok ()) :=
          ih.mpr hBelow
        have hBack : (profile.writeStep object segment.name (some held)).eval source =
            .ok (after, .ok ()) := writeStep_eq_ok_iff.mpr hSets
        -- there is a value to go on in or one to write, so the write does not end here
        rw [← isNone_and_isNone_eq_false_iff] at hPresent
        rw [eval_writeAlong_cons hPlain, hStep]
        simp only [bind, Except.bind, hCurrent, hPresent, Bool.false_eq_true, if_false, hStart,
          hHeld]
        exact hBack

end Profile

/-! ## Types on the way -/

namespace Source

/-- Something holds of a profile and of all that segments without indexes lead to from it. -/
def Throughout (source : Source V) (holds : Profile V → Prop) (profile : Profile V) : Prop :=
  ∀ segments reached, (∀ segment ∈ segments, segment.isIndexed = false) →
    source.follow profile segments = .ok reached → holds reached

variable {holds : Profile V → Prop}

/-- What holds throughout holds of the profile that one starts from. -/
theorem Throughout.here (h : source.Throughout holds profile) : holds profile :=
  h [] profile (by simp) rfl

/-- What holds throughout holds throughout below a segment. -/
theorem Throughout.deeper (h : source.Throughout holds profile)
    (hPlain : segment.isIndexed = false) (hStep : source.step profile segment = .ok child) :
    source.Throughout holds child := by
  intro segments reached hSegments hFollow
  -- what is reached below the segment is reached behind it
  refine h (segment :: segments) reached ?_ ?_
  · exact List.forall_mem_cons.mpr ⟨hPlain, hSegments⟩
  · rwa [follow_cons segments hStep]

/-- What holds of the profile of every type holds throughout. -/
theorem throughout_of_profiles {type : TypeName}
    (h : ∀ type reached, source.profile type = .ok reached → holds reached)
    (hRoot : source.profile type = .ok profile) : source.Throughout holds profile := by
  intro segments reached hSegments hFollow
  -- by the segments: each of them leads to the profile of a type
  induction segments generalizing type profile with
  | nil =>
    cases hFollow
    exact h type _ hRoot
  | cons segment segments ih =>
    rw [follow, List.foldlM_cons] at hFollow
    obtain ⟨child, hStep, hOn⟩ := bind_eq_ok_iff.mp hFollow
    obtain ⟨property, -, hChild⟩ := step_ok hStep
    exact ih hChild (List.forall_mem_cons.mp hSegments).2 hOn

end Source

end Introspect
