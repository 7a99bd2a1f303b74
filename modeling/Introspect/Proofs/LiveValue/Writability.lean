import Introspect.Proofs.Profile.Discovery
import Introspect.Proofs.Resolution.Walk
import Introspect.LiveValue

/-!
# What a writable path promises

A path is writable when its last segment can be written and all segments before it can be read. A
write along it needs more: the values that it passes are copies, and each copy has to be written
back. So a write along a writable path may still want a setter, but only that of a property which it
passes and which can be read and not written.

Main results:

* `eval_writeAlong_cons`: one level of a write.
* `write_misses_only_passed`: which accessors a write along a writable path can miss.
-/

namespace Introspect

variable {V : Type} {source : Source V} {profile : Profile V}

/-- The failure of a write, whether of its last step or before that. -/
def writeFailure? : Except PropertyError (V × Except PropertyError Unit) → Option PropertyError
  | .error cause => some cause
  | .ok (_, .error cause) => some cause
  | .ok (_, .ok ()) => none

namespace Profile

/-! ## Single steps -/

/-- A segment is asked for its name, and refused if it has an index. -/
theorem eval_plainName (segment : Segment) :
    (plainName segment : Inquiry V String).eval source =
      if segment.isIndexed then .error (.indexedValue segment.text) else .ok segment.name := by
  unfold plainName Segment.isIndexed
  cases segment.index? <;> rfl

/-- Without an index a segment leads to the type of the values. -/
theorem eval_valueProfile {segment : Segment} (hPlain : segment.isIndexed = false) :
    (profile.valueProfile segment.name).eval source = source.step profile segment := by
  unfold valueProfile Source.step Source.target
  rw [Inquiry.eval_bind, Inquiry.eval_ofExcept, hPlain]
  cases profile.readProperty segment.name with
  | error cause => rfl
  | ok property => exact Inquiry.eval_profile _

/-- A property that is readable is never missing when it is read. -/
theorem readStep_error {object : V} {name : String} {property : Property V} {cause : PropertyError}
    (hProperty : profile.readable.find? name = some property)
    (h : (profile.readStep object name).eval source = .error cause) :
    ∃ reason, cause = .access name reason := by
  unfold readStep at h
  rw [Inquiry.eval_bind, Inquiry.eval_ofExcept, readProperty_eq_ok_iff.mpr hProperty] at h
  dsimp only [bind, Except.bind] at h
  split at h
  · cases h
  · cases h
    exact ⟨_, rfl⟩

/-- A setter is missing from a write of one property exactly as the profile says. -/
theorem writeStep_misses {object : V} {name : String} {value : Option V} {kind : Direction}
    {missing : String} {owner : TypeName}
    (h : writeFailure? ((profile.writeStep object name value).eval source) =
      some (.noAccessor kind missing owner)) :
    kind = .setter ∧ missing = name ∧ owner = profile.type ∧ profile.has .setter name = false := by
  unfold writeStep at h
  rw [Inquiry.eval_bind, Inquiry.eval_ofExcept] at h
  cases hProperty : profile.writeProperty name with
  | error cause =>
    obtain ⟨hCause, hMissing⟩ := writeProperty_error hProperty
    rw [hProperty] at h
    cases Option.some.inj h
    cases hCause
    exact ⟨rfl, rfl, rfl, hMissing⟩
  | ok property =>
    rw [hProperty] at h
    dsimp only [bind, Except.bind] at h
    split at h <;> cases h

/-- No value below is made only where its type has no constructor. -/
theorem valueBelow_error {child : Profile V} {name : String} {current : Option V}
    {cause : PropertyError} (h : (child.valueBelow name current).eval source = .error cause) :
    cause = .noDefaultConstructor child.type := by
  -- a value that is there is taken as it is
  cases current with
  | some value => cases h
  | none =>
    change (Inquiry.ofExcept child.newInstance).eval source = _ at h
    rw [Inquiry.eval_ofExcept] at h
    unfold newInstance at h
    split at h <;> cases h
    rfl

/-- One level of a write: the value is read, or made, and written back once the write below has
succeeded. -/
theorem eval_writeAlong_cons {object : V} {segment next : Segment} {rest : List Segment}
    {value : Option V} (hPlain : segment.isIndexed = false) :
    (profile.writeAlong object segment value (next :: rest)).eval source = (do
      let child ← source.step profile segment
      let current ← (profile.readStep object segment.name).eval source
      if current.isNone && value.isNone then .ok (object, .ok ())
      else
        let below ← (child.valueBelow segment.name current).eval source
        match ← (child.writeAlong below next value rest).eval source with
        | (below, .ok ()) => (profile.writeStep object segment.name (some below)).eval source
        | (_, .error cause) => .ok (object, .error cause)) := by
  rw [writeAlong, Inquiry.eval_bind, eval_plainName, hPlain]
  show (profile.valueProfile segment.name >>= _ : Inquiry V _).eval source = _
  rw [Inquiry.eval_bind, eval_valueProfile hPlain]
  -- both sides take the same steps, and a step that fails ends both
  cases source.step profile segment with
  | error cause => rfl
  | ok child =>
    show (profile.readStep object segment.name >>= _ : Inquiry V _).eval source = _
    rw [Inquiry.eval_bind]
    cases (profile.readStep object segment.name).eval source with
    | error cause => rfl
    | ok current =>
      show (ite _ _ _ : Inquiry V _).eval source = ite _ _ _
      split
      · rfl
      · rw [Inquiry.eval_bind]
        cases (child.valueBelow segment.name current).eval source with
        | error cause => rfl
        | ok below =>
          show (child.writeAlong below next value rest >>= _ : Inquiry V _).eval source =
            (child.writeAlong below next value rest).eval source >>= _
          rw [Inquiry.eval_bind]
          cases (child.writeAlong below next value rest).eval source with
          | error cause => rfl
          | ok result =>
            obtain ⟨below, failure⟩ := result
            cases failure <;> rfl

end Profile

/-! ## Writes along writable paths -/

/-- Some segment before the last names a property that can be read and not written. -/
def Source.PassesReadOnly (source : Source V) (profile : Profile V) (segments : List Segment)
    (name : String) (owner : TypeName) : Prop :=
  ∃ before passed after reached, segments = before ++ passed :: after ∧ after ≠ [] ∧
    source.follow profile before = .ok reached ∧ name = passed.name ∧ owner = reached.type ∧
    reached.has .getter name = true ∧ reached.has .setter name = false

/-- What is passed below a segment is passed by the whole path. -/
theorem Source.PassesReadOnly.deeper {child : Profile V} {segment : Segment}
    {rest : List Segment} {name : String} {owner : TypeName}
    (hStep : source.step profile segment = .ok child)
    (h : source.PassesReadOnly child rest name owner) :
    source.PassesReadOnly profile (segment :: rest) name owner := by
  obtain ⟨before, passed, after, reached, rfl, hAfter, hFollow, hRest⟩ := h
  exact ⟨segment :: before, passed, after, reached, rfl, hAfter,
    by rwa [Source.follow_cons before hStep], hRest⟩

/-- An order with a customer, whose name can be written while the order's customer cannot. -/
def Sample.adasOrder : Value := .slots [("customer", some (.slots [("name", some (.text "Ada"))]))]

namespace Profile

/-- A write along segments that lead to a writable property misses no accessor but the setter of a
property that it passes. -/
theorem writeAlong_misses {object : V} {segment : Segment} {rest : List Segment}
    {value : Option V} {property : Property V} {kind : Direction} {name : String}
    {owner : TypeName}
    (hWalk : source.propertyAlong .setter profile segment rest = .ok property)
    (hFails : writeFailure? ((profile.writeAlong object segment value rest).eval source) =
      some (.noAccessor kind name owner)) :
    kind = .setter ∧ source.PassesReadOnly profile (segment :: rest) name owner := by
  -- by the segments behind the first; the write and the walk take the same steps
  induction rest generalizing profile object segment with
  | nil =>
    rw [writeAlong, Inquiry.eval_bind, eval_plainName] at hFails
    split at hFails
    · -- an index is refused for being an index
      cases hFails
    · obtain ⟨-, rfl, -, hMissing⟩ := writeStep_misses hFails
      -- the walk has found the setter of the last segment
      rw [has_eq_isOk] at hMissing
      change profile.property .setter segment.name = .ok property at hWalk
      rw [hWalk] at hMissing
      cases hMissing
  | cons next rest ih =>
    cases hIndexed : segment.isIndexed with
    | true =>
      rw [writeAlong, Inquiry.eval_bind, eval_plainName, hIndexed] at hFails
      cases hFails
    | false =>
      rw [eval_writeAlong_cons hIndexed] at hFails
      rw [Source.propertyAlong] at hWalk
      cases hStep : source.step profile segment with
      | error cause =>
        -- the walk has succeeded, so this step has
        rw [hStep] at hWalk
        cases hWalk
      | ok child =>
        rw [hStep] at hWalk hFails
        obtain ⟨passed, hPassed, -⟩ := Source.step_ok hStep
        -- reading and making the value below may fail, but not for want of an accessor
        cases hCurrent : (profile.readStep object segment.name).eval source with
        | error cause =>
          obtain ⟨reason, rfl⟩ := readStep_error hPassed hCurrent
          rw [hCurrent] at hFails
          cases hFails
        | ok current =>
          rw [hCurrent] at hFails
          change writeFailure? (if current.isNone && value.isNone then _ else _) = _ at hFails
          split at hFails
          · -- there is nothing to write, and that is no failure
            cases hFails
          · cases hBelow : (child.valueBelow segment.name current).eval source with
            | error cause =>
              rw [hBelow, valueBelow_error hBelow] at hFails
              cases hFails
            | ok below =>
              rw [hBelow] at hFails
              change writeFailure? ((child.writeAlong below next value rest).eval source >>= _) =
                _ at hFails
              have hDeeper :
                  writeFailure? ((child.writeAlong below next value rest).eval source) =
                      some (.noAccessor kind name owner) →
                    kind = .setter ∧ source.PassesReadOnly child (next :: rest) name owner :=
                ih hWalk
              rcases hWrite : (child.writeAlong below next value rest).eval source with
                cause | ⟨after, cause | success⟩
              · -- the write below has failed before its last step
                rw [hWrite] at hFails hDeeper
                obtain ⟨hKind, hPasses⟩ := hDeeper hFails
                exact ⟨hKind, hPasses.deeper hStep⟩
              · -- the write below has failed at its last step
                rw [hWrite] at hFails hDeeper
                obtain ⟨hKind, hPasses⟩ := hDeeper hFails
                exact ⟨hKind, hPasses.deeper hStep⟩
              · -- only the write back is left, and it wants the setter of this segment
                rw [hWrite] at hFails
                obtain ⟨hKind, rfl, rfl, hMissing⟩ := writeStep_misses hFails
                have hReadable : profile.has .getter segment.name = true := by
                  show (profile.readable.find? segment.name).isSome = true
                  rw [hPassed]
                  rfl
                exact ⟨hKind, [], segment, next :: rest, profile, rfl, by simp, rfl, rfl, rfl,
                  hReadable, hMissing⟩

/-- Where the front of a path is writable, its last segment has a setter. -/
theorem has_setter_of_hasAt {front : Path} {before : List Segment} {last : Segment}
    {reached : Profile V} (hSegments : front.segments = before ++ [last])
    (hFollow : source.follow profile before = .ok reached)
    (hFront : (profile.hasAt .setter front).eval source = .ok true) :
    reached.has .setter last.name = true := by
  change (profile.hasAlong .setter front.head front.tail).eval source = _ at hFront
  rw [eval_hasAlong, Source.propertyAlong_eq_follow hSegments, hFollow] at hFront
  change found (reached.property .setter last.name) = _ at hFront
  rw [found_property] at hFront
  exact Except.ok.inj hFront

/-- A list of segments that is not empty is the list of a path. -/
theorem exists_path_concat (before : List Segment) (last : Segment) :
    ∃ front : Path, front.segments = before ++ [last] := by
  cases before with
  | nil => exact ⟨⟨last, []⟩, rfl⟩
  | cons first before => exact ⟨⟨first, before ++ [last]⟩, rfl⟩

/--
**What a writable path promises.** A write along a path that resolution calls writable, through
whatever caches, misses no accessor but a setter: that of a property on the way that can be read and
not written, named with the type where it was looked up. So it misses none when every path on the
way is writable too.
-/
theorem write_misses_only_passed {c₁ c₂ : Cache V} (h₁ : c₁.Reachable source)
    (h₂ : c₂.Reachable source) (profile : Profile V) (object : V) (path : Path)
    (value : Option V)
    (hWritable : ((profile.hasAt .setter path).run source c₁).1 = .ok true) :
    (∀ kind name owner,
      writeFailure? ((profile.writeAt object path value).run source c₂).1 =
          some (.noAccessor kind name owner) →
        kind = .setter ∧ source.PassesReadOnly profile path.segments name owner) ∧
    ((∀ (front : Path) (rest : List Segment), rest ≠ [] →
        path.segments = front.segments ++ rest →
        ((profile.hasAt .setter front).run source c₁).1 = .ok true) →
      ∀ kind name owner,
        writeFailure? ((profile.writeAt object path value).run source c₂).1 ≠
          some (.noAccessor kind name owner)) := by
  have hOnly : ∀ kind name owner,
      -- what the resolution says is what the walk has found
      writeFailure? ((profile.writeAt object path value).run source c₂).1 =
          some (.noAccessor kind name owner) →
        kind = .setter ∧ source.PassesReadOnly profile path.segments name owner := by
    intro kind name owner hFails
    rw [h₂.run_eq_eval] at hFails
    rw [h₁.run_eq_eval] at hWritable
    change (profile.hasAlong .setter path.head path.tail).eval source = _ at hWritable
    rw [eval_hasAlong] at hWritable
    cases hWalk : source.propertyAlong .setter profile path.head path.tail with
    | ok property => exact writeAlong_misses hWalk hFails
    | error cause =>
      rw [hWalk] at hWritable
      cases cause <;> cases hWritable
  refine ⟨hOnly, ?_⟩
  intro hFronts kind name owner hFails
  obtain ⟨-, before, passed, after, reached, hSegments, hAfter, hFollow, rfl, -, -, hMissing⟩ :=
    hOnly kind name owner hFails
  -- the path up to the segment that was passed is writable by assumption
  obtain ⟨front, hFront⟩ := exists_path_concat before passed
  have hSplit : path.segments = front.segments ++ after := by
    rw [hSegments, hFront, List.append_assoc]
    rfl
  have hHas := hFronts front after hAfter hSplit
  rw [h₁.run_eq_eval] at hHas
  rw [has_setter_of_hasAt hFront hFollow hHas] at hMissing
  cases hMissing

/-- The name of an order's customer is writable, and the write misses the setter of the customer;
the identifier of an order is not nested, so nothing is missed. -/
theorem write_misses_only_passed_order :
    (∃ name owner,
      writeFailure? ((Sample.orderProfile.writeAt Sample.adasOrder (.parse "customer.name")
          (some (.text "Ada L."))).run Sample.shop (.create .standard)).1 =
        some (.noAccessor .setter name owner) ∧
      Sample.shop.PassesReadOnly Sample.orderProfile (Path.parse "customer.name").segments name
        owner) ∧
    ∀ kind name owner,
      writeFailure? ((Sample.orderProfile.writeAt Sample.adasOrder (.parse "id")
          (some (.text "7"))).run Sample.shop (.create .standard)).1 ≠
        some (.noAccessor kind name owner) := by
  have hCache : (Cache.create .standard : Cache Value).Reachable Sample.shop := .create _
  constructor
  · -- the customer is passed, and cannot be written
    have hWritable : ((Sample.orderProfile.hasAt .setter (.parse "customer.name")).run Sample.shop
        (.create .standard)).1 = .ok true := (hCache.run_eq_eval _).trans (by cbv)
    have hFails : writeFailure? ((Sample.orderProfile.writeAt Sample.adasOrder
        (.parse "customer.name") (some (.text "Ada L."))).run Sample.shop (.create .standard)).1 =
          some (.noAccessor .setter "customer" Sample.order) := by
      rw [hCache.run_eq_eval]
      cbv
    obtain ⟨-, hPasses⟩ := (write_misses_only_passed hCache hCache Sample.orderProfile
      Sample.adasOrder _ _ hWritable).1 _ _ _ hFails
    exact ⟨_, _, hFails, hPasses⟩
  · -- nothing is passed by a path of one segment
    have hWritable : ((Sample.orderProfile.hasAt .setter (.parse "id")).run Sample.shop
        (.create .standard)).1 = .ok true := (hCache.run_eq_eval _).trans (by cbv)
    refine (write_misses_only_passed hCache hCache Sample.orderProfile Sample.adasOrder _ _
      hWritable).2 ?_
    intro front rest hRest hSplit
    -- a single segment has no front that leaves something
    have hLength : 1 = front.tail.length + 1 + rest.length := by
      have := congrArg List.length hSplit
      rwa [List.length_append] at this
    have := List.length_pos_iff.mpr hRest
    omega

/-- **Not every writable path can be written.** The name of an order's customer can be written where
the customer is at hand, but an order does not take the customer back. -/
theorem writable_path_misses_setter :
    ¬∀ (source : Source Value) (type : TypeName) (profile : Profile Value) (object : Value)
        (path : Path) (value : Option Value),
      source.profile type = .ok profile →
      (∀ segment ∈ path.segments, segment.isIndexed = false) →
      ((profile.hasAt .setter path).run source (.create .standard)).1 = .ok true →
      ∀ kind name owner,
        writeFailure? ((profile.writeAt object path value).run source (.create .standard)).1 ≠
          some (.noAccessor kind name owner) := by
  intro hClaim
  have hCache : (Cache.create .standard : Cache Value).Reachable Sample.shop := .create _
  have hPlain : ((Path.parse "customer.name").segments.all (!·.isIndexed)) = true := by cbv
  refine hClaim Sample.shop Sample.order Sample.orderProfile Sample.adasOrder
    (.parse "customer.name") (some (.text "Ada L.")) Sample.profile_order ?_ ?_ .setter "customer"
    Sample.order ?_
  · simpa using hPlain
  · rw [hCache.run_eq_eval]
    cbv
  · rw [hCache.run_eq_eval]
    cbv

end Profile

end Introspect
