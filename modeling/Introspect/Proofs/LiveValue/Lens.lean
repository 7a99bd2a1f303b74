import Introspect.Proofs.Record.Laws

/-!
# Paths are lenses

Where the accessors of every property are two sides of one thing, so are reading and writing along a
path: what was written is read, writing what was read changes nothing, and the last of two writes
counts. A write goes down on copies and writes each of them back, so each law of the path takes the
laws of every property on the way; where a value on the way is absent, a write either makes one or
does nothing, and a read that finds none agrees with both.

Main results:

* `Source.Writes.reads`, `Source.Reads.unchanged` and `Source.Writes.overwrites`: the three laws for
  accesses that succeed.
* `Profile.path_isLens`: the laws for accesses through whatever caches.
-/

namespace Introspect

variable {V : Type} {source : Source V} {profile : Profile V} {segment : Segment}
  {rest : List Segment} {object after : V} {value : Option V}

namespace Source

/-! ## The laws for accesses that succeed -/

/-- **What was written is read.** -/
theorem Writes.reads {property : Property V}
    (hWrites : source.Writes profile object segment rest value after)
    (hLaws : source.Throughout Profile.Lawful profile)
    (hReadable : source.propertyAlong .getter profile segment rest = .ok property) :
    source.Reads profile after segment rest value := by
  -- by the course of the write, which the read takes as well
  induction hWrites with
  | last hPlain hSets =>
    have hHas := Profile.has_of_property_eq_ok hReadable
    exact .last hPlain (hLaws.here.gets_of_sets hHas hSets)
  | absent hPlain hStep hGets =>
    -- nothing was written, and nothing is there to be read
    exact .absent hPlain hGets
  | deeper hPlain hStep hGets _ _ _ hSets ih =>
    -- what was written back is what the read goes on in
    have hBack := hLaws.here.gets_of_sets hGets.has_getter hSets
    rw [propertyAlong_cons hStep] at hReadable
    exact .deeper hPlain hBack hStep (ih (hLaws.deeper hPlain hStep) hReadable)

/-- **Writing what was read changes nothing.** -/
theorem Reads.unchanged (hReads : source.Reads profile object segment rest value)
    (hWrites : source.Writes profile object segment rest value after)
    (hLaws : source.Throughout Profile.Lawful profile) : after = object := by
  -- by the course of the write, which the read has taken before
  induction hWrites with
  | last _ hSets =>
    cases hReads with
    | last _ hGets => exact hLaws.here.eq_of_gets_of_sets hGets hSets
  -- nothing was written
  | absent => rfl
  | @deeper profile child object start held after current value segment next rest hPlain hStep
      hGets hPresent hStarts _ hSets ih =>
    cases hReads with
    | absent _ hNone =>
      -- a value that is absent is written only where there is one to write it into
      obtain rfl := hGets.unique hNone
      simp at hPresent
    | deeper _ hSome hStep' hBelow =>
      obtain rfl := hGets.unique hSome
      obtain rfl := hStarts
      obtain rfl : child = _ := Except.ok.inj (hStep.symm.trans hStep')
      obtain rfl := ih hBelow (hLaws.deeper hPlain hStep)
      exact hLaws.here.eq_of_gets_of_sets hSome hSets

/-- **The last of two writes counts**, also where the first one has made what was absent. -/
theorem Writes.overwrites {property : Property V} {first second between alone : V}
    (hFirst : source.Writes profile object segment rest (some first) between)
    (hSecond : source.Writes profile between segment rest (some second) after)
    (hAlone : source.Writes profile object segment rest (some second) alone)
    (hLaws : source.Throughout Profile.Lawful profile)
    (hReadable : source.propertyAlong .getter profile segment rest = .ok property) :
    after = alone := by
  generalize hValue : some first = value at hFirst
  -- by the course of the first write; the other two take the same one
  induction hFirst generalizing after alone with
  | last _ hSets =>
    have hHas := Profile.has_of_property_eq_ok hReadable
    cases hSecond with
    | last _ hSetsAgain =>
      cases hAlone with
      | last _ hSetsAlone =>
        exact (hLaws.here.sets_of_sets hHas hSets hSetsAgain).unique hSetsAlone
  -- a value that is there was written, so the write has not stopped
  | absent => cases hValue
  | @deeper profile child object start held between current value segment next rest hPlain hStep
      hGets _ hStarts _ hSets ih =>
    have hHas := hGets.has_getter
    rw [propertyAlong_cons hStep] at hReadable
    cases hSecond with
    | @deeper _ child₂ _ start₂ held₂ _ current₂ _ _ _ _ _ hStep₂ hGets₂ _ hStarts₂ hBelow₂
        hSets₂ =>
      cases hAlone with
      | @deeper _ child₃ _ start₃ held₃ _ current₃ _ _ _ _ _ hStep₃ hGets₃ _ hStarts₃ hBelow₃
          hSets₃ =>
        obtain rfl : child = child₂ := Except.ok.inj (hStep.symm.trans hStep₂)
        obtain rfl : child = child₃ := Except.ok.inj (hStep.symm.trans hStep₃)
        -- the second write goes on in what the first has written back
        obtain rfl : current₂ = some held :=
          hGets₂.unique (hLaws.here.gets_of_sets hHas hSets)
        obtain rfl : start₂ = held := hStarts₂
        -- the write alone starts where the first one has started
        obtain rfl : current = current₃ := hGets.unique hGets₃
        obtain rfl : start = start₃ := hStarts.unique hStarts₃
        obtain rfl : held₂ = held₃ :=
          ih hBelow₂ hBelow₃ (hLaws.deeper hPlain hStep) hReadable hValue
        exact (hLaws.here.sets_of_sets hHas hSets hSets₂).unique hSets₃

end Source

namespace Profile

/--
**Reading and writing along a path are two sides of one thing**, through whatever caches, wherever
that is so for every property of every type that the path can pass. A value that was written, present
or absent, is what is then read; writing what was read leaves the object as it was; and of two values
that are written in turn the second leaves what it would have left alone, also where values on the
way were absent and had to be made.
-/
theorem path_isLens {c₁ c₂ c₃ : Cache V} (h₁ : c₁.Reachable source) (h₂ : c₂.Reachable source)
    (h₃ : c₃.Reachable source) (profile : Profile V) (path : Path)
    (hLaws : source.Throughout Profile.Lawful profile)
    (hReadable : ((profile.hasAt .getter path).run source c₁).1 = .ok true) (object : V) :
    (∀ value after, ((profile.writeAt object path value).run source c₁).1 = .ok (after, .ok ()) →
      ((profile.readAt after path).run source c₂).1 = .ok value) ∧
    (∀ value after, ((profile.readAt object path).run source c₁).1 = .ok value →
      ((profile.writeAt object path value).run source c₂).1 = .ok (after, .ok ()) →
      after = object) ∧
    ∀ first second between after alone,
      ((profile.writeAt object path (some first)).run source c₁).1 = .ok (between, .ok ()) →
      ((profile.writeAt between path (some second)).run source c₂).1 = .ok (after, .ok ()) →
      ((profile.writeAt object path (some second)).run source c₃).1 = .ok (alone, .ok ()) →
      after = alone := by
  simp only [h₁.run_eq_eval, h₂.run_eq_eval, h₃.run_eq_eval] at hReadable ⊢
  simp only [writeAt, readAt, eval_writeAlong_eq_ok_iff, eval_readAlong_eq_ok_iff]
  obtain ⟨property, hProperty⟩ := eval_hasAt_eq_true_iff.mp hReadable
  refine ⟨?_, ?_, ?_⟩
  · intro value after hWrites
    exact hWrites.reads hLaws hProperty
  · intro value after hReads hWrites
    exact hReads.unchanged hWrites hLaws
  · intro first second between after alone hFirst hSecond hAlone
    exact hFirst.overwrites hSecond hAlone hLaws hProperty

/-- A parcel without an address to go to gets one when it is sent to Paris, and that is where it is
then sent; sending it to Paris again changes nothing; and sending it to Lyon after all is as good as
sending it to Lyon in the first place. -/
theorem path_isLens_parcel :
    let toParis := Sample.parcelTo (some (Sample.addressIn "Paris"))
    (((Sample.send Sample.blankParcel "Paris").run Sample.parcels (.create .standard)).1 =
        .ok (toParis, .ok ()) ∧
      ((Sample.parcelProfile.readAt toParis (.parse "target.city")).run Sample.parcels
        (.create .standard)).1 = .ok (some (.text "Paris"))) ∧
    (∃ after, ((Sample.send toParis "Paris").run Sample.parcels (.create .standard)).1 =
        .ok (after, .ok ()) ∧ after = toParis) ∧
    ∃ after alone,
      ((Sample.send toParis "Lyon").run Sample.parcels (.create .standard)).1 =
        .ok (after, .ok ()) ∧
      ((Sample.send Sample.blankParcel "Lyon").run Sample.parcels (.create .standard)).1 =
        .ok (alone, .ok ()) ∧ after = alone := by
  have hCache : (Cache.create .standard : Cache Value).Reachable Sample.parcels := .create _
  -- parcels and addresses are records
  have hLaws : Sample.parcels.Throughout Profile.Lawful Sample.parcelProfile :=
    Source.throughout_of_profiles (fun _ _ hProfile => (Sample.parcels_laws hProfile).2.1)
      Sample.profile_parcel
  have hReadable : ((Sample.parcelProfile.hasAt .getter (.parse "target.city")).run Sample.parcels
      (.create .standard)).1 = .ok true := (hCache.run_eq_eval _).trans (by cbv)
  have hParis : ((Sample.send Sample.blankParcel "Paris").run Sample.parcels
      (.create .standard)).1 = .ok (Sample.parcelTo (some (Sample.addressIn "Paris")), .ok ()) :=
    (hCache.run_eq_eval _).trans (by cbv)
  have hParisAgain : ((Sample.send (Sample.parcelTo (some (Sample.addressIn "Paris"))) "Paris").run
      Sample.parcels (.create .standard)).1 =
        .ok (Sample.parcelTo (some (Sample.addressIn "Paris")), .ok ()) :=
    (hCache.run_eq_eval _).trans (by cbv)
  have hLyon : ((Sample.send (Sample.parcelTo (some (Sample.addressIn "Paris"))) "Lyon").run
      Sample.parcels (.create .standard)).1 =
        .ok (Sample.parcelTo (some (Sample.addressIn "Lyon")), .ok ()) :=
    (hCache.run_eq_eval _).trans (by cbv)
  have hLyonAlone : ((Sample.send Sample.blankParcel "Lyon").run Sample.parcels
      (.create .standard)).1 = .ok (Sample.parcelTo (some (Sample.addressIn "Lyon")), .ok ()) :=
    (hCache.run_eq_eval _).trans (by cbv)
  obtain ⟨hPutGet, -, hPutPut⟩ := path_isLens hCache hCache hCache Sample.parcelProfile
    (.parse "target.city") hLaws hReadable Sample.blankParcel
  obtain ⟨-, hGetPut, -⟩ := path_isLens hCache hCache hCache Sample.parcelProfile
    (.parse "target.city") hLaws hReadable (Sample.parcelTo (some (Sample.addressIn "Paris")))
  have hRead := hPutGet _ _ hParis
  exact ⟨⟨hParis, hRead⟩, ⟨_, hParisAgain, hGetPut _ _ hRead hParisAgain⟩,
    ⟨_, _, hLyon, hLyonAlone, hPutPut _ _ _ _ _ hParis hLyon hLyonAlone⟩⟩

end Profile

end Introspect
