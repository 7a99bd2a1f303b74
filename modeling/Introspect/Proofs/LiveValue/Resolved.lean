import Introspect.Proofs.Record.Laws

/-!
# Live accesses resolve

An access to a live value follows the profiles of the types that properties declare, and so does the
resolution of its path. The two walk side by side until the access ends, and that may be before the
end of the path: where a value is absent a read stops, and a write stops that would only make another
value absent. Otherwise an access that succeeds has come to the property that resolution finds.

* `Path.Precedes`: a path that another one begins with and goes on from.

Main results:

* `Source.Reads.resolves` and `propertyAlong_eq_of_readAlong`: a read that finds a value, or that
  misses an accessor, tells what resolution says.
* `Source.Writes.resolves` and `Source.Writes.unchanged`: what a write that succeeds tells, and what
  it does where a value on the way is absent.
* `Profile.live_access_resolves`: the same through whatever caches.
-/

namespace Introspect

variable {V : Type} {source : Source V} {profile : Profile V} {segment next : Segment}
  {rest : List Segment} {object after held : V} {value : Option V}

/-! ## Where paths stop -/

namespace Path

/-- A path begins with another one and goes on from there. -/
def Precedes (front path : Path) : Prop :=
  ∃ rest, rest ≠ [] ∧ path.segments = front.segments ++ rest

theorem not_precedes_single {front : Path} : ¬front.Precedes ⟨segment, []⟩ := by
  rintro ⟨rest, hRest, hSegments⟩
  have hTail : [] = front.tail ++ rest := (List.cons.inj hSegments).2
  exact hRest (List.append_eq_nil_iff.mp hTail.symm).2

/-- What precedes a longer path is its first segment, with what precedes the rest or without. -/
theorem precedes_cons_iff {front : Path} :
    front.Precedes ⟨segment, next :: rest⟩ ↔
      front = ⟨segment, []⟩ ∨
        ∃ below : Path, below.Precedes ⟨next, rest⟩ ∧ front = ⟨segment, below.segments⟩ := by
  obtain ⟨head, tail⟩ := front
  constructor
  · rintro ⟨more, hMore, hSegments⟩
    obtain ⟨hHead, hTail⟩ := List.cons.inj hSegments
    obtain rfl : segment = head := hHead
    cases tail with
    | nil => exact Or.inl rfl
    | cons first others => exact Or.inr ⟨⟨first, others⟩, ⟨more, hMore, hTail⟩, rfl⟩
  · rintro (hFront | ⟨below, ⟨more, hMore, hSegments⟩, hFront⟩)
    · -- the first segment alone
      cases hFront
      exact ⟨next :: rest, by simp, rfl⟩
    · -- the first segment, and then something that precedes the rest
      cases hFront
      exact ⟨more, hMore, congrArg (segment :: ·) hSegments⟩

end Path

/-! ## Reads -/

namespace Profile

variable {name : String}

/-- A value is read by a property that the profile has for reading. -/
theorem Gets.property_eq_ok (h : profile.Gets name object value) :
    ∃ property, profile.property .getter name = .ok property ∧
      property.accessor.get object = .ok value := by
  obtain ⟨property, hFound, hGet⟩ := h
  exact ⟨property, readProperty_eq_ok_iff.mpr hFound, hGet⟩

/-- A value is written by a property that the profile has for writing. -/
theorem Sets.property_eq_ok (h : profile.Sets name object value after) :
    ∃ property, profile.property .setter name = .ok property := by
  obtain ⟨property, hFound, -⟩ := h
  exact ⟨property, writeProperty_eq_ok_iff.mpr hFound⟩

/-- A read of one property misses an accessor only where the profile does. -/
theorem readProperty_of_readStep {kind : Direction} {missing : String} {owner : TypeName}
    (h : (profile.readStep object name).eval source = .error (.noAccessor kind missing owner)) :
    profile.readProperty name = .error (.noAccessor kind missing owner) := by
  cases hProperty : profile.readProperty name with
  | error cause =>
    unfold readStep at h
    rw [Inquiry.eval_bind, Inquiry.eval_ofExcept, hProperty] at h
    exact congrArg _ (Except.error.inj h)
  | ok property =>
    obtain ⟨reason, hReason⟩ := readStep_error (readProperty_eq_ok_iff.mp hProperty) h
    cases hReason

/-- **A read that misses an accessor** misses the one that resolution misses. -/
theorem propertyAlong_eq_of_readAlong {kind : Direction} {missing : String} {owner : TypeName}
    (h : (profile.readAlong object segment rest).eval source =
      .error (.noAccessor kind missing owner)) :
    source.propertyAlong .getter profile segment rest =
      .error (.noAccessor kind missing owner) := by
  -- by the segments behind the first; a read that has stopped has missed what the walk misses
  induction rest generalizing profile object segment with
  | nil =>
    have hPlain := plain_of_readAlong h nofun
    rw [eval_readAlong_nil hPlain] at h
    exact readProperty_of_readStep h
  | cons next rest ih =>
    have hPlain := plain_of_readAlong h nofun
    rw [eval_readAlong_cons hPlain] at h
    rw [Source.propertyAlong]
    cases hCurrent : (profile.readStep object segment.name).eval source with
    | error cause =>
      -- a read that misses an accessor here misses the one that the walk wants
      rw [hCurrent] at h
      cases Except.error.inj h
      rw [Source.step, readProperty_of_readStep hCurrent]
      rfl
    | ok current =>
      rw [hCurrent] at h
      cases current with
      | none => cases h
      | some there =>
        -- the read and the walk go on to the same type, or fail to for the same reason
        cases hStep : source.step profile segment with
        | error cause =>
          simp only [bind, Except.bind, hStep] at h
          cases Except.error.inj h
          rfl
        | ok child =>
          simp only [bind, Except.bind, hStep] at h
          exact ih h

end Profile

namespace Source

/-- The value that the last segment of a path is read from: the object itself, or what is read along
all segments before. -/
def Parent (source : Source V) (profile : Profile V) (object : V) (path : Path) (parent : V) :
    Prop :=
  (path.tail = [] ∧ parent = object) ∨ ∃ front last, path.segments = front.segments ++ [last] ∧
    (profile.readAt object front).eval source = .ok (some parent)

/-- The parent of what is below a segment is the parent of the whole path. -/
theorem Parent.deeper {child : Profile V} {parent : V} (hPlain : segment.isIndexed = false)
    (hGets : profile.Gets segment.name object (some held))
    (hStep : source.step profile segment = .ok child)
    (h : source.Parent child held ⟨next, rest⟩ parent) :
    source.Parent profile object ⟨segment, next :: rest⟩ parent := by
  right
  rcases h with ⟨hTail, rfl⟩ | ⟨front, last, hSegments, hParent⟩
  · -- the value below the first segment is the parent of a second one that is the last
    obtain rfl : rest = [] := hTail
    exact ⟨⟨segment, []⟩, next, rfl,
      Profile.eval_readAlong_eq_ok_iff.mpr (.last hPlain hGets)⟩
  · refine ⟨⟨segment, front.segments⟩, last, congrArg (segment :: ·) hSegments, ?_⟩
    have hBelow := Profile.eval_readAlong_eq_ok_iff.mp hParent
    exact Profile.eval_readAlong_eq_ok_iff.mpr (.deeper hPlain hGets hStep hBelow)

/-- **A read that finds a value** has come to the property that resolution finds, and has read it
from the value of the parent. -/
theorem Reads.resolves (h : source.Reads profile object segment rest (some held)) :
    (∀ s ∈ segment :: rest, s.isIndexed = false) ∧
    ∃ property parent, source.propertyAlong .getter profile segment rest = .ok property ∧
      property.accessor.get parent = .ok (some held) ∧
      source.Parent profile object ⟨segment, rest⟩ parent := by
  generalize hValue : some held = value at h
  -- by the course of the read; it finds a value, so it has not stopped at one that is absent
  induction h with
  | @last profile object segment value hPlain hGets =>
    obtain ⟨property, hProperty, hGet⟩ := hGets.property_eq_ok
    exact ⟨by simpa using hPlain, property, object, hProperty, hGet, Or.inl ⟨rfl, rfl⟩⟩
  | absent => cases hValue
  | deeper hPlain hGets hStep _ ih =>
    obtain ⟨hPlainBelow, property, parent, hProperty, hGet, hParent⟩ := ih hValue
    refine ⟨List.forall_mem_cons.mpr ⟨hPlain, hPlainBelow⟩, property, parent, ?_, hGet,
      hParent.deeper hPlain hGets hStep⟩
    rw [propertyAlong_cons hStep]
    exact hProperty

/-! ## Writes -/

/-- There is a property in some direction at the end of a path. -/
def HasProperty (source : Source V) (direction : Direction) (profile : Profile V) (path : Path) :
    Prop :=
  ∃ property, source.propertyAlong direction profile path.head path.tail = .ok property

/-- A property below a segment is one at the end of the whole path. -/
theorem HasProperty.deeper {direction : Direction} {child : Profile V} {path : Path}
    (hStep : source.step profile segment = .ok child)
    (h : source.HasProperty direction child path) :
    source.HasProperty direction profile ⟨segment, path.segments⟩ := by
  obtain ⟨property, hProperty⟩ := h
  exact ⟨property, (propertyAlong_cons hStep).trans hProperty⟩

/-- A path stops at an absent value before its end. -/
def StopsShort (source : Source V) (profile : Profile V) (object : V) (path : Path) : Prop :=
  ∃ front : Path, front.Precedes path ∧ (profile.readAt object front).eval source = .ok none

/-- **A write that succeeds** has come to the property that resolution finds, along properties that
can be both read and written; or else an absent value was written, and one on the way was absent. -/
theorem Writes.resolves (h : source.Writes profile object segment rest value after) :
    (value = none ∧ source.StopsShort profile object ⟨segment, rest⟩) ∨
    ((∀ s ∈ segment :: rest, s.isIndexed = false) ∧
      source.HasProperty .setter profile ⟨segment, rest⟩ ∧
      ∀ front : Path, front.Precedes ⟨segment, rest⟩ →
        source.HasProperty .getter profile front ∧ source.HasProperty .setter profile front) := by
  -- by the course of the write
  induction h with
  -- a single segment is preceded by nothing, so its own setter is all that is wanted
  | last hPlain hSets =>
    refine Or.inr ⟨by simpa using hPlain, hSets.property_eq_ok, ?_⟩
    intro front hFront
    exact absurd hFront Path.not_precedes_single
  -- the first segment alone leads to a value that is absent
  | absent hPlain _ hGets =>
    refine Or.inl ⟨rfl, ⟨_, []⟩, Path.precedes_cons_iff.mpr (Or.inl rfl), ?_⟩
    exact Profile.eval_readAlong_eq_ok_iff.mpr (.last hPlain hGets)
  | @deeper profile child object start held after current value segment next rest hPlain hStep
      hGets hPresent hStarts _ hSets ih =>
    rcases ih with ⟨rfl, front, hFront, hAbsent⟩ | ⟨hPlainBelow, hSetter, hFronts⟩
    · -- nothing was made here, so the absent value is absent below the value that was there
      obtain ⟨there, rfl⟩ := Option.isSome_iff_exists.mp (hPresent.resolve_right (by simp))
      obtain rfl : start = there := hStarts
      refine Or.inl ⟨rfl, ⟨segment, front.segments⟩,
        Path.precedes_cons_iff.mpr (Or.inr ⟨front, hFront, rfl⟩), ?_⟩
      have hBelow := Profile.eval_readAlong_eq_ok_iff.mp hAbsent
      exact Profile.eval_readAlong_eq_ok_iff.mpr (.deeper hPlain hGets hStep hBelow)
    · refine Or.inr ⟨List.forall_mem_cons.mpr ⟨hPlain, hPlainBelow⟩, hSetter.deeper hStep, ?_⟩
      intro front hFront
      rcases Path.precedes_cons_iff.mp hFront with rfl | ⟨below, hBelow, rfl⟩
      · -- the first segment was read, and it was written back
        obtain ⟨reading, hReading, -⟩ := hGets.property_eq_ok
        exact ⟨⟨reading, hReading⟩, hSets.property_eq_ok⟩
      · obtain ⟨hRead, hWritten⟩ := hFronts below hBelow
        exact ⟨hRead.deeper hStep, hWritten.deeper hStep⟩

end Source

/-- Writing back a value that was read changes nothing. -/
def Profile.KeepsOnWriteBack (profile : Profile V) : Prop :=
  ∀ name object held after, profile.Gets name object (some held) →
    profile.Sets name object (some held) after → after = object

/-- **An absent value makes nothing**: where a value on the way is absent, the write leaves the
object as it was. -/
theorem Source.Writes.unchanged (h : source.Writes profile object segment rest none after)
    (hShort : source.StopsShort profile object ⟨segment, rest⟩)
    (hKeeps : source.Throughout Profile.KeepsOnWriteBack profile) : after = object := by
  generalize hValue : (none : Option V) = value at h
  -- by the course of the write, where the value that is absent is known to lie before the end
  induction h with
  | last =>
    obtain ⟨front, hFront, -⟩ := hShort
    exact absurd hFront Path.not_precedes_single
  | absent => rfl
  | @deeper profile child object start held after current value segment next rest hPlain hStep
      hGets hPresent hStarts _ hSets ih =>
    subst hValue
    obtain ⟨there, rfl⟩ := Option.isSome_iff_exists.mp (hPresent.resolve_right (by simp))
    obtain rfl : start = there := hStarts
    obtain ⟨front, hFront, hAbsent⟩ := hShort
    rw [Profile.readAt, Profile.eval_readAlong_eq_ok_iff] at hAbsent
    rcases Path.precedes_cons_iff.mp hFront with rfl | ⟨below, hBelow, rfl⟩
    · -- the first value is there
      obtain ⟨-, hNone⟩ := hAbsent
      cases hGets.unique hNone
    · cases hAbsent with
      | absent _ hNone => cases hGets.unique hNone
      | deeper _ hGets' hStep' hReads =>
        obtain rfl := Option.some.inj (hGets.unique hGets')
        obtain rfl := Except.ok.inj (hStep.symm.trans hStep')
        have hShortBelow : source.StopsShort child start ⟨next, rest⟩ :=
          ⟨below, hBelow, Profile.eval_readAlong_eq_ok_iff.mpr hReads⟩
        -- the value that is written back is the one that was read
        obtain rfl := ih hShortBelow (hKeeps.deeper hPlain hStep) rfl
        exact hKeeps.here segment.name object held after hGets hSets

namespace Profile

/--
**A live access succeeds only where resolution allows it**, through whatever caches. A read that
finds a value has no index on its way; resolution says that the path can be read, and the value is
what the accessor at the end of the path reads from the value of the parent. A read that misses an
accessor is one that resolution says cannot be made. A write that succeeds has no index on its way,
resolution says that the path can be written, and every path that precedes it can be both read and
written; unless an absent value was written and a path that precedes reads as absent, and then the
object is left as it was, provided that values are written back without a change.
-/
theorem live_access_resolves {c₁ c₂ : Cache V} (h₁ : c₁.Reachable source)
    (h₂ : c₂.Reachable source) (profile : Profile V) (object : V) (path : Path) :
    (∀ held, ((profile.readAt object path).run source c₁).1 = .ok (some held) →
      (∀ segment ∈ path.segments, segment.isIndexed = false) ∧
      ((profile.hasAt .getter path).run source c₂).1 = .ok true ∧
      ∃ accessor parent, ((profile.accessorAt .getter path).run source c₂).1 = .ok accessor ∧
        accessor.get parent = .ok (some held) ∧
        ((path.tail = [] ∧ parent = object) ∨
          ∃ front last, path.segments = front.segments ++ [last] ∧
            ((profile.readAt object front).run source c₁).1 = .ok (some parent))) ∧
    (∀ kind name owner,
      ((profile.readAt object path).run source c₁).1 = .error (.noAccessor kind name owner) →
      ((profile.hasAt .getter path).run source c₂).1 = .ok false) ∧
    ∀ value after, ((profile.writeAt object path value).run source c₁).1 = .ok (after, .ok ()) →
      ((value = none ∧ ∃ front : Path, front.Precedes path ∧
          ((profile.readAt object front).run source c₁).1 = .ok none) ∨
        ((∀ segment ∈ path.segments, segment.isIndexed = false) ∧
          ((profile.hasAt .setter path).run source c₂).1 = .ok true ∧
          ∀ front : Path, front.Precedes path →
            ((profile.hasAt .getter front).run source c₂).1 = .ok true ∧
            ((profile.hasAt .setter front).run source c₂).1 = .ok true)) ∧
      (value = none →
        (∃ front : Path, front.Precedes path ∧
          ((profile.readAt object front).run source c₁).1 = .ok none) →
        source.Throughout Profile.KeepsOnWriteBack profile → after = object) := by
  simp only [h₁.run_eq_eval, h₂.run_eq_eval]
  refine ⟨?_, ?_, ?_⟩
  · intro held hRead
    obtain ⟨hPlain, property, parent, hProperty, hGet, hParent⟩ :=
      (eval_readAlong_eq_ok_iff.mp hRead).resolves
    have hAccessor : (profile.accessorAt .getter path).eval source = .ok property.accessor := by
      rw [accessorAt, eval_accessorAlong, hProperty]
      rfl
    exact ⟨hPlain, eval_hasAt_eq_true_iff.mpr ⟨property, hProperty⟩, property.accessor, parent,
      hAccessor, hGet, hParent⟩
  · intro kind name owner hRead
    have hWalk := propertyAlong_eq_of_readAlong hRead
    rw [hasAt, eval_hasAlong, hWalk]
    rfl
  · intro value after hWrite
    have hWrites := eval_writeAlong_eq_ok_iff.mp hWrite
    constructor
    · rcases hWrites.resolves with hShort | ⟨hPlain, hSetter, hFronts⟩
      · exact Or.inl hShort
      · refine Or.inr ⟨hPlain, eval_hasAt_eq_true_iff.mpr hSetter, ?_⟩
        intro front hFront
        obtain ⟨hRead, hWritten⟩ := hFronts front hFront
        exact ⟨eval_hasAt_eq_true_iff.mpr hRead, eval_hasAt_eq_true_iff.mpr hWritten⟩
    · rintro rfl hShort hKeeps
      exact hWrites.unchanged hShort hKeeps

/-- The city that a parcel goes to is read and can be read, an address has no street to be read, a
postal code that is absent is no reason to make an address, and a parcel is sent to Paris only
because its address can be written as well as the city. -/
theorem live_access_resolves_parcel :
    (((Sample.parcelProfile.readAt (Sample.parcelTo (some (Sample.addressIn "Paris")))
          (.parse "target.city")).run Sample.parcels (.create .standard)).1 =
        .ok (some (.text "Paris")) ∧
      ((Sample.parcelProfile.hasAt .getter (.parse "target.city")).run Sample.parcels
        (.create .standard)).1 = .ok true) ∧
    (((Sample.parcelProfile.readAt (Sample.parcelTo (some (Sample.addressIn "Paris")))
          (.parse "target.street")).run Sample.parcels (.create .standard)).1 =
        .error (.noAccessor .getter "street" ⟨"Address"⟩) ∧
      ((Sample.parcelProfile.hasAt .getter (.parse "target.street")).run Sample.parcels
        (.create .standard)).1 = .ok false) ∧
    (∃ after,
      ((Sample.parcelProfile.writeAt Sample.blankParcel (.parse "target.zip") none).run
        Sample.parcels (.create .standard)).1 = .ok (after, .ok ()) ∧ after = Sample.blankParcel) ∧
    (∃ after,
      ((Sample.send Sample.blankParcel "Paris").run Sample.parcels (.create .standard)).1 =
        .ok (after, .ok ()) ∧
      ((Sample.parcelProfile.hasAt .setter (.parse "target")).run Sample.parcels
        (.create .standard)).1 = .ok true) := by
  have hCache : (Cache.create .standard : Cache Value).Reachable Sample.parcels := .create _
  -- the path to the address precedes whatever goes on from it
  have hPrecedes : ∀ last, (Path.parse "target").Precedes ⟨⟨"target"⟩, [last]⟩ := by
    intro last
    exact ⟨[last], by simp, by rw [show (Path.parse "target") = ⟨⟨"target"⟩, []⟩ by cbv]; rfl⟩
  have hZip : Path.parse "target.zip" = ⟨⟨"target"⟩, [⟨"zip"⟩]⟩ := by cbv
  have hCity : Path.parse "target.city" = ⟨⟨"target"⟩, [⟨"city"⟩]⟩ := by cbv
  -- records take back what was read from them
  have hKeeps : Sample.parcels.Throughout Profile.KeepsOnWriteBack Sample.parcelProfile := by
    refine Source.throughout_of_profiles (fun _ _ hProfile => ?_) Sample.profile_parcel
    intro name object held after hGets hSets
    exact (Sample.parcels_laws hProfile).2.1.eq_of_gets_of_sets hGets hSets
  refine ⟨?_, ?_, ?_, ?_⟩
  · have hRead : ((Sample.parcelProfile.readAt (Sample.parcelTo (some (Sample.addressIn "Paris")))
        (.parse "target.city")).run Sample.parcels (.create .standard)).1 =
          .ok (some (.text "Paris")) := (hCache.run_eq_eval _).trans (by cbv)
    exact ⟨hRead, ((live_access_resolves hCache hCache Sample.parcelProfile _ _).1 _ hRead).2.1⟩
  · have hRead : ((Sample.parcelProfile.readAt (Sample.parcelTo (some (Sample.addressIn "Paris")))
        (.parse "target.street")).run Sample.parcels (.create .standard)).1 =
          .error (.noAccessor .getter "street" ⟨"Address"⟩) :=
      (hCache.run_eq_eval _).trans (by cbv)
    exact ⟨hRead, (live_access_resolves hCache hCache Sample.parcelProfile _ _).2.1 _ _ _ hRead⟩
  · have hWrite : ((Sample.parcelProfile.writeAt Sample.blankParcel (.parse "target.zip") none).run
        Sample.parcels (.create .standard)).1 = .ok (Sample.blankParcel, .ok ()) :=
      (hCache.run_eq_eval _).trans (by cbv)
    have hAbsent : ((Sample.parcelProfile.readAt Sample.blankParcel (.parse "target")).run
        Sample.parcels (.create .standard)).1 = .ok none := (hCache.run_eq_eval _).trans (by cbv)
    refine ⟨_, hWrite, ?_⟩
    exact ((live_access_resolves hCache hCache Sample.parcelProfile _ _).2.2 _ _ hWrite).2 rfl
      ⟨.parse "target", by rw [hZip]; exact hPrecedes _, hAbsent⟩ hKeeps
  · have hWrite : ((Sample.send Sample.blankParcel "Paris").run Sample.parcels
        (.create .standard)).1 = .ok (Sample.parcelTo (some (Sample.addressIn "Paris")), .ok ()) :=
      (hCache.run_eq_eval _).trans (by cbv)
    refine ⟨_, hWrite, ?_⟩
    rcases ((live_access_resolves hCache hCache Sample.parcelProfile _ _).2.2 _ _ hWrite).1 with
      ⟨hNone, -⟩ | ⟨-, -, hFronts⟩
    · cases hNone
    · exact (hFronts (.parse "target") (by rw [hCity]; exact hPrecedes _)).2

end Profile

end Introspect
