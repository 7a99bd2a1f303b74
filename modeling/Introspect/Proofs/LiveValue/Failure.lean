import Introspect.Proofs.Record.Laws

/-!
# Writes that fail

A write body is handed an object, not a copy of it, and may change the object before it fails. So
what a failed write leaves behind is a question about the object itself, wherever on the path the
failure is. `Source.assignAt` is a write told that way: it changes objects where they are, and when
it fails every object stays as it is at that moment. Below the first segment it works on a copy, and
the object itself is touched by the last step only.

* `InPlace`: computations that change an object where it is.
* `Source.assignAlong`: a write along segments in place.

Main results:

* `Profile.assignAlong_eq_settled`: in place, a write does what `Profile.writeAt` says that it does.
* `Profile.failed_write_restores`: a write that fails leaves the object as it was.
-/

namespace Introspect

variable {V α β : Type} {source : Source V}

/-! ## Changing objects in place -/

/-- A computation on an object that is changed where it is; when it fails, the object stays as it is
at that moment. -/
abbrev InPlace (V α : Type) := EStateM PropertyError V α

namespace InPlace

/-- Asks a question, which does not touch the object. -/
def ask (source : Source V) (inquiry : Inquiry V α) : InPlace V α := fun object =>
  match inquiry.eval source with
  | .ok answer => .ok answer object
  | .error cause => .error cause object

/-- Changes a copy, and gives the copy as it is afterwards; the object is not touched. -/
def onCopy (copy : V) (change : InPlace V Unit) : InPlace V V := fun object =>
  match change copy with
  | .ok () changed => .ok changed object
  | .error cause _ => .error cause object

/-- Hands the object to the body that writes a property. -/
def assign (accessor : Accessor V) (name : String) (value : Option V) : InPlace V Unit :=
  fun object =>
    match accessor.set object value with
    | (after, .ok ()) => .ok () after
    | (after, .error cause) => .error (.access name cause) after

end InPlace

namespace Source

open InPlace

/-- Writes a property of the object. -/
def assignStep (source : Source V) (profile : Profile V) (name : String) (value : Option V) :
    InPlace V Unit := do
  let property ← ask source (.ofExcept (profile.writeProperty name))
  assign property.accessor name value

/-- Writes along some segments: a copy of the value below is changed, and then the object. -/
def assignAlong (source : Source V) (profile : Profile V) (segment : Segment) (value : Option V) :
    List Segment → InPlace V Unit
  | [] => do
    let name ← ask source (Profile.plainName segment)
    source.assignStep profile name value
  | next :: rest => do
    let name ← ask source (Profile.plainName segment)
    let child ← ask source (profile.valueProfile name)
    let current ← ask source (profile.readStep (← get) name)
    if current.isNone && value.isNone then return ()
    else
      let below ← ask source (child.valueBelow name current)
      let changed ← onCopy below (source.assignAlong child next value rest)
      source.assignStep profile name (some changed)

/-- Writes the value at a path. -/
def assignAt (source : Source V) (profile : Profile V) (path : Path) (value : Option V) :
    InPlace V Unit :=
  source.assignAlong profile path.head value path.tail

end Source

/-- The end of a write, told as that of a change in place: a write that failed before its last step
has not touched the object. -/
def settled (object : V) :
    Except PropertyError (V × Except PropertyError Unit) → EStateM.Result PropertyError V Unit
  | .ok (after, .ok ()) => .ok () after
  | .ok (after, .error cause) => .error cause after
  | .error cause => .error cause object

/-! ## The same write -/

namespace InPlace

variable {object : V} {next : α → InPlace V β}

/-- Asking a question that has an answer is going on with the answer. -/
theorem ask_bind_ok {inquiry : Inquiry V α} {answer : α} (h : inquiry.eval source = .ok answer) :
    (ask source inquiry >>= next) object = next answer object := by
  show EStateM.bind (ask source inquiry) next object = _
  unfold EStateM.bind ask
  rw [h]

/-- Asking a question that fails leaves the object as it is. -/
theorem ask_bind_error {inquiry : Inquiry V α} {cause : PropertyError}
    (h : inquiry.eval source = .error cause) :
    (ask source inquiry >>= next) object = .error cause object := by
  show EStateM.bind (ask source inquiry) next object = _
  unfold EStateM.bind ask
  rw [h]

/-- A question that a write asks: in place it is asked too, and if it fails nothing is touched. -/
theorem ask_bind_eq_settled {inquiry : Inquiry V α} {next : α → InPlace V Unit}
    {goOn : α → Inquiry V (V × Except PropertyError Unit)}
    (h : ∀ answer, next answer object = settled object ((goOn answer).eval source)) :
    (ask source inquiry >>= next) object =
      settled object ((inquiry >>= goOn).eval source) := by
  -- both sides ask first, and have the same answer or the same failure
  rw [Inquiry.eval_bind]
  cases hAnswer : inquiry.eval source with
  | error cause => exact ask_bind_error hAnswer
  | ok answer => exact (ask_bind_ok hAnswer).trans (h answer)

end InPlace

namespace Profile

open InPlace

variable {profile : Profile V} {name : String} {object : V} {value : Option V}

/-- Writing a property in place is writing the property. -/
theorem assignStep_eq_settled :
    source.assignStep profile name value object =
      settled object ((profile.writeStep object name value).eval source) := by
  unfold Source.assignStep writeStep
  refine ask_bind_eq_settled fun property => ?_
  unfold assign
  rcases property.accessor.set object value with ⟨after, cause | success⟩ <;> rfl

/-- **A write in place is the write**: it ends in the same way and leaves the same object. -/
theorem assignAlong_eq_settled {segment : Segment} {rest : List Segment} :
    source.assignAlong profile segment value rest object =
      settled object ((profile.writeAlong object segment value rest).eval source) := by
  -- both ask the same questions, and a question that fails leaves the object alone
  induction rest generalizing profile segment object with
  | nil =>
    unfold Source.assignAlong writeAlong
    exact ask_bind_eq_settled fun name => assignStep_eq_settled
  | cons next rest ih =>
    unfold Source.assignAlong writeAlong
    refine ask_bind_eq_settled fun name => ask_bind_eq_settled fun child => ?_
    show (ask source (profile.readStep object name) >>= _ : InPlace V Unit) object = _
    refine ask_bind_eq_settled fun current => ?_
    show (ite _ _ _ : InPlace V Unit) object =
      settled object ((ite _ _ _ : Inquiry V _).eval source)
    split
    · rfl
    · refine ask_bind_eq_settled fun below => ?_
      show EStateM.bind (onCopy below (source.assignAlong child next value rest)) _ object = _
      unfold EStateM.bind onCopy
      rw [ih, Inquiry.eval_bind]
      -- the copy has been changed or has failed to be; only then is the object written
      rcases (child.writeAlong below next value rest).eval source with
        cause | ⟨changed, cause | success⟩
      · rfl
      · rfl
      · exact assignStep_eq_settled

end Profile

/-! ## The object after a failure -/

namespace InPlace

/-- A computation that fails leaves the object as it was. -/
def Restores (change : InPlace V α) : Prop :=
  ∀ object cause after, change object = .error cause after → after = object

/-- What follows a question restores the object if what comes after every answer does. -/
theorem Restores.ask_bind {inquiry : Inquiry V α} {next : α → InPlace V β}
    (h : ∀ answer, inquiry.eval source = .ok answer → (next answer).Restores) :
    (ask source inquiry >>= next).Restores := by
  -- either the question itself fails, or what comes after its answer
  intro object cause after hFails
  cases hAsk : inquiry.eval source with
  | error reason =>
    rw [ask_bind_error hAsk] at hFails
    cases hFails
    rfl
  | ok answer =>
    rw [ask_bind_ok hAsk] at hFails
    exact h answer hAsk object cause after hFails

/-- What looks at the object first restores it if what comes after does. -/
theorem Restores.get_bind {next : V → InPlace V β} (h : ∀ object, (next object).Restores) :
    (get >>= next).Restores := by
  intro object cause after hFails
  exact h object object cause after hFails

/-- What works on a copy first restores the object if what comes after does. -/
theorem Restores.onCopy_bind {copy : V} {change : InPlace V Unit} {next : V → InPlace V β}
    (h : ∀ changed, (next changed).Restores) : (onCopy copy change >>= next).Restores := by
  intro object cause after hFails
  change EStateM.bind (onCopy copy change) next object = _ at hFails
  unfold EStateM.bind onCopy at hFails
  -- whatever became of the copy, the object is still to be touched
  cases hChange : change copy with
  | error reason lost =>
    rw [hChange] at hFails
    cases hFails
    rfl
  | ok success changed =>
    rw [hChange] at hFails
    exact h changed object cause after hFails

/-- Handing the object to an atomic body restores it when the body fails. -/
theorem Restores.assign {accessor : Accessor V} {name : String} {value : Option V}
    (h : ∀ body, accessor.writer? = some body → Writer.Atomic body) :
    (assign accessor name value).Restores := by
  intro object cause after hFails
  unfold InPlace.assign Accessor.set at hFails
  -- without a body there is nothing that could touch the object
  cases hWriter : accessor.writer? with
  | none =>
    rw [hWriter] at hFails
    cases hFails
    rfl
  | some body =>
    rw [hWriter] at hFails
    rcases hSet : body object value with ⟨left, reason | success⟩
    · simp only [hSet] at hFails
      cases hFails
      exact h body hWriter object value after reason hSet
    · -- the body has succeeded
      simp only [hSet] at hFails
      cases hFails

end InPlace

namespace Profile

open InPlace

variable {profile : Profile V} {name : String} {value : Option V}

/-- Writing a property in place restores the object when it fails, if bodies are atomic. -/
theorem WritesAtomically.assignStep (h : profile.WritesAtomically) :
    (source.assignStep profile name value).Restores := by
  unfold Source.assignStep
  refine .ask_bind fun property hProperty => .assign fun body hWriter => ?_
  rw [Inquiry.eval_ofExcept, writeProperty_eq_ok_iff] at hProperty
  exact h name property body hProperty hWriter

/-- So does writing along segments: the object itself is touched by the last step alone. -/
theorem WritesAtomically.assignAlong (h : profile.WritesAtomically) (segment : Segment)
    (rest : List Segment) : (source.assignAlong profile segment value rest).Restores := by
  -- each question restores the object, so only the last step could touch it
  cases rest with
  | nil =>
    unfold Source.assignAlong
    exact .ask_bind fun name _ => h.assignStep
  | cons next rest =>
    unfold Source.assignAlong
    refine .ask_bind fun name _ => .ask_bind fun child _ => .get_bind fun object =>
      .ask_bind fun current _ => ?_
    split
    · -- nothing is left to do, and nothing fails
      intro object cause after hFails
      cases hFails
    · exact .ask_bind fun below _ => .onCopy_bind fun changed => h.assignStep

/--
**A write that fails leaves the object as it was**, through whatever caches its profiles come and
wherever on the path it fails: for an index, a missing accessor, a type that cannot be built or made
anew, or a body that fails, at any depth and even after the write below has succeeded. The object is
the one that a write in place leaves. It takes bodies that are atomic, as those of records are.
-/
theorem failed_write_restores {cache : Cache V} (hCache : cache.Reachable source)
    (profile : Profile V) (hBodies : profile.WritesAtomically) (object : V) (path : Path)
    (value : Option V) :
    let outcome := ((profile.writeAt object path value).run source cache).1
    source.assignAt profile path value object = settled object outcome ∧
    (∀ cause, writeFailure? outcome = some cause →
      source.assignAt profile path value object = .error cause object) ∧
    ∀ record field, Writer.Atomic (Record.writeField record field) := by
  intro outcome
  have hSame : source.assignAt profile path value object = settled object outcome := by
    show _ = settled object ((profile.writeAt object path value).run source cache).1
    rw [hCache.run_eq_eval]
    exact assignAlong_eq_settled
  refine ⟨hSame, ?_, Record.writeField_atomic⟩
  intro cause hFails
  -- in place the write ends with the same failure, and with the object that is there then
  obtain ⟨after, hEnd⟩ : ∃ after, settled object outcome = .error cause after := by
    rcases outcome with reason | ⟨after, reason | success⟩
    · -- the write failed before its last step
      exact ⟨object, by rw [← Option.some.inj hFails]; rfl⟩
    · -- the write failed at its last step
      exact ⟨after, by rw [← Option.some.inj hFails]; rfl⟩
    · -- the write succeeded
      cases hFails
  have hAfter : after = object :=
    hBodies.assignAlong path.head path.tail object cause after (hSame.trans hEnd)
  rw [hSame, hEnd, hAfter]

/-- A parcel does not take back the address that it comes from, although the city has been changed
in a copy of it; and a number is no city, although an address has been made for the parcel to go to.
-/
theorem failed_write_restores_parcel :
    Sample.parcelProfile.WritesAtomically ∧
    Sample.parcels.assignAt Sample.parcelProfile (.parse "origin.city") (some (.text "Rome"))
        Sample.blankParcel =
      .error (.noAccessor .setter "origin" Sample.parcel.type) Sample.blankParcel ∧
    Sample.parcels.assignAt Sample.parcelProfile (.parse "target.city") (some (.number "u32" 7))
        Sample.blankParcel =
      .error (.access "city" (.valueMismatch ⟨"String"⟩)) Sample.blankParcel := by
  have hCache : (Cache.create .standard : Cache Value).Reachable Sample.parcels := .create _
  have hBodies : Sample.parcelProfile.WritesAtomically :=
    (Sample.parcels_laws Sample.profile_parcel).1
  refine ⟨hBodies, ?_, ?_⟩
  · -- the address that a parcel comes from can be read, and changed in a copy
    refine (failed_write_restores hCache Sample.parcelProfile hBodies Sample.blankParcel
      (.parse "origin.city") (some (.text "Rome"))).2.1 _ ?_
    rw [hCache.run_eq_eval]
    cbv
  · -- the address that a parcel goes to can be made, but has no city that is a number
    refine (failed_write_restores hCache Sample.parcelProfile hBodies Sample.blankParcel
      (.parse "target.city") (some (.number "u32" 7))).2.1 _ ?_
    rw [hCache.run_eq_eval]
    cbv

end Profile

end Introspect
