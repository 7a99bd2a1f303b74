import Introspect.Proofs.Path
import Introspect.Proofs.Record.Laws

/-!
# Writes along paths that part

A nested write copies the whole value below a segment and writes the whole copy back, so what could
go wrong is that one write loses another. It does not where paths part: at the segments that differ
two independent properties are written, and above them the copy that is written back is the one
that holds both writes, because what was written back is read again.

* `Segment.Part`: two paths part, at once or after a segment in common.

Main results:

* `Source.Writes.leaves_other` and `Source.Writes.comm`: a write leaves alone what parts from it, and
  two writes that part can be made in any order.
* `Profile.parting_writes_independent`: the same through whatever caches.
-/

namespace Introspect

variable {V : Type} {source : Source V} {profile : Profile V} {name : String} {object after : V}
  {value : Option V}

/-! ## Paths that part -/

namespace Segment

variable {segment other : Segment} {rest others : List Segment}

/-- The segments have different names, or they are the same one and those after them part. -/
inductive Part : Segment → List Segment → Segment → List Segment → Prop where
  | here {segment other : Segment} {rest others : List Segment}
      (hNames : segment.name ≠ other.name) : Part segment rest other others
  | deeper {segment next next' : Segment} {rest rest' : List Segment}
      (hBelow : Part next rest next' rest') :
      Part segment (next :: rest) segment (next' :: rest')

/-- Without an index the name of a segment is all of it. -/
theorem name_eq_text (hPlain : segment.isIndexed = false) : segment.name = segment.text := by
  have hBracket : '[' ∉ segment.text.toList := by
    unfold isIndexed index? at hPlain
    split at hPlain
    · rename_i hEmpty
      intro hMem
      simpa using List.dropWhile_eq_nil_iff.mp hEmpty _ hMem
    · cases hPlain
  exact name_of_notMem hBracket

/-- Segments without indexes are told apart by their names. -/
theorem eq_of_name_eq (hPlain : segment.isIndexed = false) (hOther : other.isIndexed = false)
    (hNames : segment.name = other.name) : segment = other := by
  rw [name_eq_text hPlain, name_eq_text hOther] at hNames
  cases segment
  cases other
  cases hNames
  rfl

/-- Two paths without indexes part unless one begins with the other. -/
theorem part_of_not_prefix (hPlain : ∀ s ∈ segment :: rest, s.isIndexed = false)
    (hOther : ∀ s ∈ other :: others, s.isIndexed = false)
    (hApart : ¬segment :: rest <+: other :: others)
    (hApart' : ¬other :: others <+: segment :: rest) : Part segment rest other others := by
  -- by one of the paths; where its first name is that of the other, the paths go on from there
  induction rest generalizing segment other others with
  | nil =>
    -- a path at its end parts by name, for the other one does not begin with it
    refine .here fun hNames => hApart ?_
    obtain rfl := eq_of_name_eq (hPlain _ List.mem_cons_self) (hOther _ List.mem_cons_self) hNames
    exact List.cons_prefix_cons.mpr ⟨rfl, List.nil_prefix⟩
  | cons next rest ih =>
    by_cases hNames : segment.name = other.name
    · obtain rfl := eq_of_name_eq (hPlain _ List.mem_cons_self) (hOther _ List.mem_cons_self) hNames
      cases others with
      | nil => exact absurd (List.cons_prefix_cons.mpr ⟨rfl, List.nil_prefix⟩) hApart'
      | cons next' others =>
        refine .deeper (ih (List.forall_mem_cons.mp hPlain).2 (List.forall_mem_cons.mp hOther).2
          (fun h => hApart ?_) (fun h => hApart' ?_))
        · exact List.cons_prefix_cons.mpr ⟨rfl, h⟩
        · exact List.cons_prefix_cons.mpr ⟨rfl, h⟩
    · exact .here hNames

end Segment

/-! ## Properties that differ -/

namespace Profile

variable {other : String}

/-- What is read under one name stays when another is written. -/
theorem Independent.readStep_eq (h : profile.Independent) (hNames : name ≠ other)
    (hSets : profile.Sets name object value after) :
    (profile.readStep after other).eval source = (profile.readStep object other).eval source := by
  unfold readStep
  rw [Inquiry.eval_bind, Inquiry.eval_bind, Inquiry.eval_ofExcept]
  cases hProperty : profile.readProperty other with
  | error cause => rfl
  | ok property =>
    have hSame := h.get_set hNames hSets (readProperty_eq_ok_iff.mp hProperty)
    dsimp only [bind, Except.bind]
    rw [hSame]

/-- A value that was read under one name is read there when another was written. -/
theorem Independent.gets_of_sets {content : Option V} (h : profile.Independent)
    (hNames : name ≠ other) (hSets : profile.Sets name object value after)
    (hGets : profile.Gets other object content) : profile.Gets other after content := by
  obtain ⟨reading, hReading, hGet⟩ := hGets
  exact ⟨reading, hReading, (h.get_set hNames hSets hReading).trans hGet⟩

/-- A read depends on the object through its first property only. -/
theorem eval_readAlong_congr {segment : Segment} {rest : List Segment}
    (hSame : (profile.readStep after segment.name).eval source =
      (profile.readStep object segment.name).eval source) :
    (profile.readAlong after segment rest).eval source =
      (profile.readAlong object segment rest).eval source := by
  cases hIndexed : segment.isIndexed with
  | true => rw [eval_readAlong_indexed hIndexed, eval_readAlong_indexed hIndexed]
  | false =>
    cases rest with
    | nil => rw [eval_readAlong_nil hIndexed, eval_readAlong_nil hIndexed, hSame]
    | cons next rest => rw [eval_readAlong_cons hIndexed, eval_readAlong_cons hIndexed, hSame]

end Profile

namespace Source

open Segment

variable {segment other : Segment} {rest others : List Segment}

/-- The profiles on the way keep the laws, and their properties are independent. -/
abbrev Separable (source : Source V) (profile : Profile V) : Prop :=
  source.Throughout (fun reached => reached.Lawful ∧ reached.Independent) profile

theorem Writes.unique {after' : V} (h : source.Writes profile object segment rest value after)
    (h' : source.Writes profile object segment rest value after') : after = after' := by
  rw [← Profile.eval_writeAlong_eq_ok_iff] at h h'
  exact congrArg Prod.fst (Except.ok.inj (h.symm.trans h'))

/-- A value that is there is written by writing one content under the first name, the same content
into any object that reads the same under that name. -/
theorem Writes.exists_sets {written : V} {object' after' : V}
    (h : source.Writes profile object segment rest (some written) after)
    (h' : source.Writes profile object' segment rest (some written) after')
    (hSame : ∀ current, profile.Gets segment.name object current →
      profile.Gets segment.name object' current) :
    ∃ content, profile.Sets segment.name object content after ∧
      profile.Sets segment.name object' content after' := by
  cases h with
  -- the value is there, so the write ends at the last segment or goes below
  | last _ hSets =>
    cases h' with
    | last _ hSets' => exact ⟨_, hSets, hSets'⟩
  | @deeper _ child _ start held _ current _ _ _ _ _ hStep hGets _ hStarts hBelow hSets =>
    cases h' with
    | @deeper _ child' _ start' held' _ current' _ _ _ _ _ hStep' hGets' _ hStarts' hBelow'
        hSets' =>
      -- both writes go on in the same value, so they come to the same one to write back
      obtain rfl : child = child' := Except.ok.inj (hStep.symm.trans hStep')
      obtain rfl : current = current' := (hSame current hGets).unique hGets'
      obtain rfl : start = start' := hStarts.unique hStarts'
      obtain rfl : held = held' := hBelow.unique hBelow'
      exact ⟨some held, hSets, hSets'⟩

/-- A write touches its object under the first name only, if at all. -/
theorem Writes.eq_or_sets (h : source.Writes profile object segment rest value after) :
    after = object ∨ ∃ content, profile.Sets segment.name object content after := by
  cases h with
  | last _ hSets => exact Or.inr ⟨value, hSets⟩
  | absent => exact Or.inl rfl
  | deeper _ _ _ _ _ _ hSets => exact Or.inr ⟨_, hSets⟩

/-! ## What a write leaves alone -/

/-- **A write leaves alone what parts from it**, where the values that both paths pass are there. -/
theorem Writes.leaves_other (hPart : Part segment rest other others)
    (hWrites : source.Writes profile object segment rest value after)
    (hLaws : source.Separable profile)
    (hPresent : ∀ front : Path, front.segments <+: segment :: rest →
      front.segments <+: other :: others →
      ∃ held, source.Reads profile object front.head front.tail (some held)) :
    (profile.readAlong after other others).eval source =
      (profile.readAlong object other others).eval source := by
  -- by where the paths part
  induction hPart generalizing profile object after with
  | here hNames =>
    rcases hWrites.eq_or_sets with rfl | ⟨content, hSets⟩
    · -- nothing was written
      rfl
    · -- the property that was written is another one than the first of the other path
      exact Profile.eval_readAlong_congr (hLaws.here.2.readStep_eq hNames hSets)
  | @deeper segment next next' rest rest' _ ih =>
    -- the segment in common is a path of its own, so there is a value to go on in
    obtain ⟨there, hThere⟩ := hPresent ⟨segment, []⟩ (List.prefix_append [segment] _)
      (List.prefix_append [segment] _)
    obtain ⟨-, hSome⟩ := hThere
    cases hWrites with
    | absent _ _ hNone => cases hSome.unique hNone
    | @deeper _ child _ start held _ current _ _ _ _ hPlain hStep hGets _ hStarts hBelow hSets =>
      obtain rfl := hGets.unique hSome
      obtain rfl : start = there := hStarts
      have hBack : profile.Gets segment.name after (some held) :=
        hLaws.here.1.gets_of_sets hGets.has_getter hSets
      have hPresentBelow : ∀ front : Path, front.segments <+: next :: rest →
          front.segments <+: next' :: rest' →
          ∃ held, source.Reads child start front.head front.tail (some held) := by
        intro front hFront hFront'
        obtain ⟨last, hLast⟩ := hPresent ⟨segment, front.segments⟩
          (List.cons_prefix_cons.mpr ⟨rfl, hFront⟩) (List.cons_prefix_cons.mpr ⟨rfl, hFront'⟩)
        cases hLast with
        | deeper _ hGets' hStep' hReads =>
          obtain rfl := Option.some.inj (hSome.unique hGets')
          obtain rfl := Except.ok.inj (hStep.symm.trans hStep')
          exact ⟨last, hReads⟩
      have hSame := ih hBelow (hLaws.deeper hPlain hStep) hPresentBelow
      -- above that the read finds what was written back, which differs from before only below
      rw [Profile.eval_readAlong_cons hPlain, Profile.eval_readAlong_cons hPlain,
        Profile.readStep_eq_ok_iff.mpr hBack, Profile.readStep_eq_ok_iff.mpr hSome]
      simp only [bind, Except.bind, hStep]
      exact hSame

/-- **Two writes that part can be made in any order**, also where both have to make the same value
that is absent. -/
theorem Writes.comm (hPart : Part segment rest other others) {a b first second both both' : V}
    (hFirst : source.Writes profile object segment rest (some a) first)
    (hBoth : source.Writes profile first other others (some b) both)
    (hSecond : source.Writes profile object other others (some b) second)
    (hBoth' : source.Writes profile second segment rest (some a) both')
    (hLaws : source.Separable profile) : both = both' := by
  -- by where the paths part
  induction hPart generalizing profile object first second both both' with
  | here hNames =>
    -- each write puts the same content under its name, before the other write and after it
    obtain ⟨x, hX, -⟩ := hFirst.exists_sets hFirst fun _ hGets => hGets
    obtain ⟨y, hY, hYAfter⟩ := hSecond.exists_sets hBoth fun _ hGets =>
      hLaws.here.2.gets_of_sets hNames hX hGets
    obtain ⟨x', hX', hXAfter⟩ := hFirst.exists_sets hBoth' fun _ hGets =>
      hLaws.here.2.gets_of_sets hNames.symm hY hGets
    exact hLaws.here.2.set_set hNames hX' hYAfter hY hXAfter
  | deeper _ ih =>
    cases hFirst with
    | @deeper _ child _ start held₁ _ current _ _ _ _ hPlain hStep hGets _ hStarts hBelow₁ hSets₁ =>
    cases hSecond with
    | @deeper _ child₂ _ start₂ held₂ _ current₂ _ _ _ _ _ hStep₂ hGets₂ _ hStarts₂ hBelow₂
        hSets₂ =>
    cases hBoth with
    | @deeper _ child₃ _ start₃ held₃ _ current₃ _ _ _ _ _ hStep₃ hGets₃ _ hStarts₃ hBelow₃
        hSets₃ =>
    cases hBoth' with
    | @deeper _ child₄ _ start₄ held₄ _ current₄ _ _ _ _ _ hStep₄ hGets₄ _ hStarts₄ hBelow₄
        hSets₄ =>
    have hHas := hGets.has_getter
    obtain rfl : child = child₂ := Except.ok.inj (hStep.symm.trans hStep₂)
    obtain rfl : child = child₃ := Except.ok.inj (hStep.symm.trans hStep₃)
    obtain rfl : child = child₄ := Except.ok.inj (hStep.symm.trans hStep₄)
    -- the first writes start from one value, and each second write from what was written back
    obtain rfl : current = current₂ := hGets.unique hGets₂
    obtain rfl : start = start₂ := hStarts.unique hStarts₂
    obtain rfl : current₃ = some held₁ := hGets₃.unique (hLaws.here.1.gets_of_sets hHas hSets₁)
    obtain rfl : current₄ = some held₂ := hGets₄.unique (hLaws.here.1.gets_of_sets hHas hSets₂)
    obtain rfl : start₃ = held₁ := hStarts₃
    obtain rfl : start₄ = held₂ := hStarts₄
    have hHeld : held₃ = held₄ := ih hBelow₁ hBelow₃ hBelow₂ hBelow₄ (hLaws.deeper hPlain hStep)
    -- of the two values written back in turn only the last one counts
    have hOnly := hLaws.here.1.sets_of_sets hHas hSets₁ hSets₃
    have hOnly' := hLaws.here.1.sets_of_sets hHas hSets₂ hSets₄
    rw [← hHeld] at hOnly'
    exact hOnly.unique hOnly'

end Source

namespace Profile

/--
**Writes along paths that part do not interfere**, through whatever caches, wherever the types on the
way keep the laws and have independent properties. Neither of two paths without indexes begins with
the other. If every path that both begin with leads to a value that is there, a write along one
leaves what is read along the other, be it a value or a failure. And two values that are there can be
written in any order, also where both writes have to make the same value that is absent.
-/
theorem parting_writes_independent {c₁ c₂ c₃ c₄ : Cache V} (h₁ : c₁.Reachable source)
    (h₂ : c₂.Reachable source) (h₃ : c₃.Reachable source) (h₄ : c₄.Reachable source)
    (profile : Profile V) (hLaws : source.Separable profile) (p q : Path)
    (hP : ∀ segment ∈ p.segments, segment.isIndexed = false)
    (hQ : ∀ segment ∈ q.segments, segment.isIndexed = false)
    (hApart : ¬p.segments <+: q.segments) (hApart' : ¬q.segments <+: p.segments) (object : V) :
    (∀ value after,
      (∀ front : Path, front.segments <+: p.segments → front.segments <+: q.segments →
        ∃ held, ((profile.readAt object front).run source c₁).1 = .ok (some held)) →
      ((profile.writeAt object p value).run source c₂).1 = .ok (after, .ok ()) →
      ((profile.readAt after q).run source c₃).1 = ((profile.readAt object q).run source c₄).1) ∧
    ∀ a b first second both both',
      ((profile.writeAt object p (some a)).run source c₁).1 = .ok (first, .ok ()) →
      ((profile.writeAt first q (some b)).run source c₂).1 = .ok (both, .ok ()) →
      ((profile.writeAt object q (some b)).run source c₃).1 = .ok (second, .ok ()) →
      ((profile.writeAt second p (some a)).run source c₄).1 = .ok (both', .ok ()) →
      both = both' := by
  have hPart : Segment.Part p.head p.tail q.head q.tail :=
    Segment.part_of_not_prefix hP hQ hApart hApart'
  simp only [h₁.run_eq_eval, h₂.run_eq_eval, h₃.run_eq_eval, h₄.run_eq_eval]
  simp only [writeAt, readAt, eval_writeAlong_eq_ok_iff, eval_readAlong_eq_ok_iff]
  constructor
  · intro value after hPresent hWrites
    exact hWrites.leaves_other hPart hLaws hPresent
  · intro a b first second both both' hFirst hBoth hSecond hBoth'
    exact hFirst.comm hPart hBoth hSecond hBoth' hLaws

/-- A parcel that is sent to another city keeps its postal code, and a parcel without an address to
go to gets the same one whether the city or the postal code is written first. -/
theorem parting_writes_independent_parcel :
    (∃ lyon,
      ((Sample.send (Sample.parcelTo (some (Sample.address "Paris" (some "75001")))) "Lyon").run
        Sample.parcels (.create .standard)).1 = .ok (lyon, .ok ()) ∧
      ((Sample.parcelProfile.readAt lyon (.parse "target.zip")).run Sample.parcels
          (.create .standard)).1 =
        ((Sample.parcelProfile.readAt (Sample.parcelTo (some (Sample.address "Paris"
          (some "75001")))) (.parse "target.zip")).run Sample.parcels (.create .standard)).1) ∧
    ∃ first both second both',
      ((Sample.send Sample.blankParcel "Paris").run Sample.parcels (.create .standard)).1 =
        .ok (first, .ok ()) ∧
      ((Sample.code first "75001").run Sample.parcels (.create .standard)).1 = .ok (both, .ok ()) ∧
      ((Sample.code Sample.blankParcel "75001").run Sample.parcels (.create .standard)).1 =
        .ok (second, .ok ()) ∧
      ((Sample.send second "Paris").run Sample.parcels (.create .standard)).1 =
        .ok (both', .ok ()) ∧ both = both' := by
  have hCache : (Cache.create .standard : Cache Value).Reachable Sample.parcels := .create _
  have hLaws : Sample.parcels.Separable Sample.parcelProfile :=
    Source.throughout_of_profiles (fun _ _ hProfile => (Sample.parcels_laws hProfile).2)
      Sample.profile_parcel
  have hCity : (Path.parse "target.city").segments = [⟨"target"⟩, ⟨"city"⟩] := by cbv
  have hZip : (Path.parse "target.zip").segments = [⟨"target"⟩, ⟨"zip"⟩] := by cbv
  have hPlain : ∀ segment ∈ ([⟨"target"⟩, ⟨"city"⟩, ⟨"zip"⟩] : List Segment),
      segment.isIndexed = false := by
    have hAll : ([⟨"target"⟩, ⟨"city"⟩, ⟨"zip"⟩] : List Segment).all (!·.isIndexed) = true := by
      cbv
    simpa using hAll
  -- the two paths have one segment in common, and the address is there
  have hPresent : ∀ front : Path, front.segments <+: (Path.parse "target.city").segments →
      front.segments <+: (Path.parse "target.zip").segments →
      ∃ held, ((Sample.parcelProfile.readAt (Sample.parcelTo (some (Sample.address "Paris"
        (some "75001")))) front).run Sample.parcels (.create .standard)).1 = .ok (some held) := by
    rintro ⟨head, tail⟩ hFront hFront'
    rw [hCity] at hFront
    rw [hZip] at hFront'
    obtain ⟨rfl, hTail⟩ := List.cons_prefix_cons.mp hFront
    obtain ⟨-, hTail'⟩ := List.cons_prefix_cons.mp hFront'
    cases tail with
    -- the path that both begin with is that to the address
    | nil =>
      refine ⟨Sample.address "Paris" (some "75001"), ?_⟩
      rw [hCache.run_eq_eval]
      cbv
    -- a longer path goes on differently on either side
    | cons next rest =>
      have hNext := (List.cons_prefix_cons.mp hTail).1
      rw [(List.cons_prefix_cons.mp hTail').1] at hNext
      simp at hNext
  have hApart := parting_writes_independent hCache hCache hCache hCache
    Sample.parcelProfile hLaws (.parse "target.city") (.parse "target.zip")
    (by rw [hCity]; intro segment hMem; exact hPlain segment (by simp at hMem ⊢; tauto))
    (by rw [hZip]; intro segment hMem; exact hPlain segment (by simp at hMem ⊢; tauto))
    (by rw [hCity, hZip]; simp) (by rw [hCity, hZip]; simp)
  obtain ⟨hLeaves, -⟩ :=
    hApart (Sample.parcelTo (some (Sample.address "Paris" (some "75001"))))
  obtain ⟨-, hComm⟩ := hApart Sample.blankParcel
  have hLyon : ((Sample.send (Sample.parcelTo (some (Sample.address "Paris" (some "75001"))))
      "Lyon").run Sample.parcels (.create .standard)).1 =
        .ok (Sample.parcelTo (some (Sample.address "Lyon" (some "75001"))), .ok ()) :=
    (hCache.run_eq_eval _).trans (by cbv)
  have hFirst : ((Sample.send Sample.blankParcel "Paris").run Sample.parcels
      (.create .standard)).1 = .ok (Sample.parcelTo (some (Sample.address "Paris" none)), .ok ()) :=
    (hCache.run_eq_eval _).trans (by cbv)
  have hBoth : ((Sample.code (Sample.parcelTo (some (Sample.address "Paris" none))) "75001").run
      Sample.parcels (.create .standard)).1 =
        .ok (Sample.parcelTo (some (Sample.address "Paris" (some "75001"))), .ok ()) :=
    (hCache.run_eq_eval _).trans (by cbv)
  have hSecond : ((Sample.code Sample.blankParcel "75001").run Sample.parcels
      (.create .standard)).1 =
        .ok (Sample.parcelTo (some (Sample.address "" (some "75001"))), .ok ()) :=
    (hCache.run_eq_eval _).trans (by cbv)
  have hBoth' : ((Sample.send (Sample.parcelTo (some (Sample.address "" (some "75001"))))
      "Paris").run Sample.parcels (.create .standard)).1 =
        .ok (Sample.parcelTo (some (Sample.address "Paris" (some "75001"))), .ok ()) :=
    (hCache.run_eq_eval _).trans (by cbv)
  exact ⟨⟨_, hLyon, hLeaves _ _ hPresent hLyon⟩, ⟨_, _, _, _, hFirst, hBoth, hSecond, hBoth',
    hComm _ _ _ _ _ _ hFirst hBoth hSecond hBoth'⟩⟩

end Profile

end Introspect
