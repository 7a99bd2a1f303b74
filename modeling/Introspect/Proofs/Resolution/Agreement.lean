import Introspect.Proofs.Profile.Discovery
import Introspect.Proofs.Resolution.Walk

/-!
# Questions about a path agree

Whether a path can be used in a direction, what the type of its values is and by which accessor they
are reached: the three questions stand or fall together, and what keeps one of them from an answer
keeps the others from it too. So a question that gathers the answers never runs into a missing
accessor.

Main result: `queries_agree`.
-/

namespace Introspect

variable {V : Type} {source : Source V} {profile : Profile V} {direction : Direction}

namespace Profile

/-! ## Presence -/

/-- Whether a path can be used is unclear only for a type whose profile cannot be built. -/
theorem hasAlong_error {segment : Segment} {rest : List Segment} {cause : PropertyError}
    (h : (profile.hasAlong direction segment rest).eval source = .error cause) :
    source.Blocks profile cause := by
  rw [eval_hasAlong] at h
  cases hWalk : source.propertyAlong direction profile segment rest with
  | ok property =>
    rw [hWalk] at h
    cases h
  | error other =>
    rw [hWalk] at h
    rcases Source.propertyAlong_error hWalk with ⟨kind, name, owner, rfl, -⟩ | hBlocks
    · -- a missing accessor makes the answer no, and not unclear
      cases h
    · rw [found_of_isAmbiguous hBlocks.1] at h
      cases h
      exact hBlocks

/-- A property that is there has a type. -/
theorem typeAlong_of_hasAlong {segment : Segment} {rest : List Segment}
    (h : (profile.hasAlong direction segment rest).eval source = .ok true) :
    ∃ type, (profile.typeAlong direction segment rest).eval source = .ok type := by
  rw [eval_hasAlong] at h
  rw [eval_typeAlong]
  cases hWalk : source.propertyAlong direction profile segment rest with
  | ok property => exact ⟨_, rfl⟩
  | error other =>
    rw [hWalk] at h
    cases other <;> cases h

/-! ## Spelling and the gathered answers -/

/-- Looking for names fails only at a type whose profile cannot be built. -/
theorem findAlong_error {camelCase : Bool} {segment : Segment} {rest : List Segment}
    {cause : PropertyError}
    (h : (profile.findAlong camelCase segment rest).eval source = .error cause) :
    source.Blocks profile cause := by
  -- by the segments behind the first, each looked up in the profile that the ones before lead to
  induction rest generalizing profile segment with
  | nil =>
    unfold findAlong at h
    split at h <;> cases h
  | cons next rest ih =>
    unfold findAlong at h
    split at h
    · cases h
    · rename_i name hName
      dsimp only at h
      rw [Inquiry.eval_bind, eval_child?] at h
      cases hProperty : profile.readProperty name with
      | error other =>
        rw [hProperty] at h
        cases h
      | ok property =>
        -- the name may be another than that of the segment, but the type is nested all the same
        have hFound := readProperty_eq_ok_iff.mp hProperty
        simp only [hProperty] at h
        cases hChild : source.profile (source.target segment.isIndexed property.type) with
        | error other =>
          rw [hChild] at h
          cases h
          exact .direct hFound hChild
        | ok child =>
          rw [hChild] at h
          change (child.findAlong camelCase next rest >>= _ : Inquiry V _).eval source = _ at h
          rw [Inquiry.eval_bind] at h
          cases hRest : (child.findAlong camelCase next rest).eval source with
          | error other =>
            rw [hRest] at h
            cases h
            exact (ih hRest).deeper hFound hChild
          | ok others? =>
            rw [hRest] at h
            cases others? <;> cases h

/-- Looking for the names of a whole path fails only for that as well. -/
theorem findPath_error {camelCase : Bool} {path : Path} {cause : PropertyError}
    (h : (profile.findPath camelCase path).eval source = .error cause) :
    source.Blocks profile cause := by
  unfold findPath at h
  rw [Inquiry.eval_bind] at h
  cases hAlong : (profile.findAlong camelCase path.head path.tail).eval source with
  | error other =>
    rw [hAlong] at h
    cases h
    exact findAlong_error hAlong
  | ok found? =>
    rw [hAlong] at h
    dsimp only [bind, Except.bind] at h
    split at h <;> cases h

/-- What type the values have is asked only where there is an answer. -/
theorem eval_valueTypeAt {path : Path} {readable writable : Bool}
    (hReadable : (profile.hasAt .getter path).eval source = .ok readable)
    (hWritable : (profile.hasAt .setter path).eval source = .ok writable) :
    ∃ valueType?,
      (profile.valueTypeAt readable writable path).eval source = .ok valueType? := by
  unfold valueTypeAt
  cases readable with
  -- what can be read has a type, and so has what can be written
  | true =>
    obtain ⟨type, hType⟩ := typeAlong_of_hasAlong hReadable
    rw [if_pos rfl, Inquiry.eval_map, typeAt, hType]
    exact ⟨some type, rfl⟩
  | false =>
    cases writable with
    | true =>
      obtain ⟨type, hType⟩ := typeAlong_of_hasAlong hWritable
      rw [if_neg Bool.false_ne_true, if_pos rfl, Inquiry.eval_map, typeAt, hType]
      exact ⟨some type, rfl⟩
    | false => exact ⟨none, rfl⟩

/-- Gathering the answers fails only for that as well. -/
theorem resolveAt_error {camelCase : Bool} {path : Path} {cause : PropertyError}
    (h : (profile.resolveAt camelCase path).eval source = .error cause) :
    source.Blocks profile cause := by
  unfold resolveAt at h
  rw [Inquiry.eval_bind] at h
  cases hReadable : (profile.hasAt .getter path).eval source with
  | error other =>
    rw [hReadable] at h
    cases h
    exact hasAlong_error hReadable
  | ok readable =>
    rw [hReadable] at h
    change Inquiry.eval source (profile.hasAt .setter path >>= _) = _ at h
    rw [Inquiry.eval_bind] at h
    cases hWritable : (profile.hasAt .setter path).eval source with
    | error other =>
      rw [hWritable] at h
      cases h
      exact hasAlong_error hWritable
    | ok writable =>
      rw [hWritable] at h
      -- the type is asked for only in a direction in which there is one
      obtain ⟨valueType?, hType⟩ := eval_valueTypeAt hReadable hWritable
      change Inquiry.eval source (profile.valueTypeAt readable writable path >>= _) = _ at h
      rw [Inquiry.eval_bind, hType] at h
      change Inquiry.eval source (profile.findPath camelCase path >>= _) = _ at h
      rw [Inquiry.eval_bind] at h
      cases hPath : (profile.findPath camelCase path).eval source with
      | error other =>
        rw [hPath] at h
        cases h
        exact findPath_error hPath
      | ok canonical? =>
        rw [hPath] at h
        cases h

/-! ## The main result -/

/--
**The questions about one direction of a path agree**, through whatever caches they are asked. The
path can be used in the direction exactly when its values have a type, and exactly when there is an
accessor. It cannot be used exactly when the other two fail for want of the same accessor: that of
the first segment without the one it needs, in the type where it was looked up. Whether it can be
used is itself unclear exactly when all three fail for the same ambiguity. Asking everything at once
fails only where the profile of a nested type cannot be built.
-/
theorem queries_agree {c₁ c₂ c₃ c₄ : Cache V} (h₁ : c₁.Reachable source)
    (h₂ : c₂.Reachable source) (h₃ : c₃.Reachable source) (h₄ : c₄.Reachable source)
    (profile : Profile V) (direction : Direction) (path : Path) :
    let has := ((profile.hasAt direction path).run source c₁).1
    let type := ((profile.typeAt direction path).run source c₂).1
    let accessor := ((profile.accessorAt direction path).run source c₃).1
    (has = .ok true ↔ ∃ answer, type = .ok answer) ∧
    (has = .ok true ↔ ∃ answer, accessor = .ok answer) ∧
    (has = .ok false ↔ ∃ kind name owner, type = .error (.noAccessor kind name owner) ∧
      accessor = .error (.noAccessor kind name owner)) ∧
    (∀ kind name owner, type = .error (.noAccessor kind name owner) →
      source.Misses direction profile path.segments kind name owner) ∧
    (∀ cause, has = .error cause ↔
      cause.isAmbiguous = true ∧ type = .error cause ∧ accessor = .error cause) ∧
    (∀ camelCase cause, ((profile.resolveAt camelCase path).run source c₄).1 = .error cause →
      source.Blocks profile cause) := by
  intro has type accessor
  -- the three answers are read off one walk, whatever the caches hold
  have hHas : has = found (source.propertyAt direction profile path) :=
    (h₁.run_eq_eval _).trans (eval_hasAlong _ _)
  have hType : type = (fun property =>
      source.target (path.tail.getLastD path.head).isIndexed property.type) <$>
        source.propertyAt direction profile path :=
    (h₂.run_eq_eval _).trans (eval_typeAlong _ _)
  have hAccessor : accessor = Property.accessor <$> source.propertyAt direction profile path :=
    (h₃.run_eq_eval _).trans (eval_accessorAlong _ _)
  have hResolve : ∀ camelCase cause,
      ((profile.resolveAt camelCase path).run source c₄).1 = .error cause →
        source.Blocks profile cause := by
    intro camelCase cause hFails
    rw [h₄.run_eq_eval] at hFails
    exact resolveAt_error hFails
  have hFails : ∀ cause, source.propertyAt direction profile path = .error cause →
      (∃ kind name owner, cause = .noAccessor kind name owner) ∨ cause.isAmbiguous = true := by
    intro cause hWalk
    rcases Source.propertyAlong_error hWalk with ⟨kind, name, owner, hCause, -⟩ | hBlocks
    · exact Or.inl ⟨kind, name, owner, hCause⟩
    · exact Or.inr hBlocks.1
  have hMisses : ∀ kind name owner, type = .error (.noAccessor kind name owner) →
      source.Misses direction profile path.segments kind name owner := by
    intro kind name owner hMissing
    rw [hType] at hMissing
    cases hWalk : source.propertyAt direction profile path with
    | ok property =>
      rw [hWalk] at hMissing
      cases hMissing
    | error cause =>
      rw [hWalk] at hMissing
      cases hMissing
      rcases Source.propertyAlong_error hWalk with ⟨_, _, _, hSame, hMisses⟩ | hBlocks
      · cases hSame
        exact hMisses
      · -- a missing accessor is no ambiguity
        cases hBlocks.1
  refine ⟨?_, ?_, ?_, hMisses, ?_, hResolve⟩
  · rw [hHas, hType]
    exact found_eq_true_iff _
  · rw [hHas, hAccessor]
    exact found_eq_true_iff _
  · rw [hHas, hType, hAccessor]
    exact found_eq_false_iff _ _
  · rw [hHas, hType, hAccessor]
    exact found_eq_error_iff _ _ hFails

/-- A customer has no nickname to be read, so nothing can be written below it: not to a cache in
use, not to one that is switched off, and not to one whose next build is interrupted. -/
theorem queries_agree_order :
    let path := Path.parse "customer.nick.first"
    let fresh : Cache Value := .create .standard
    ((Sample.orderProfile.hasAt .setter path).run Sample.shop fresh).1 = .ok false ∧
      ∃ kind name owner,
        ((Sample.orderProfile.typeAt .setter path).run Sample.shop (fresh.setEnabled false)).1 =
          .error (.noAccessor kind name owner) ∧
        ((Sample.orderProfile.accessorAt .setter path).run Sample.shop
            { fresh with interruption? := some .reset }).1 = .error (.noAccessor kind name owner) ∧
        Sample.shop.Misses .setter Sample.orderProfile path.segments kind name owner := by
  intro path fresh
  have hFresh : fresh.Reachable Sample.shop := .create .standard
  obtain ⟨-, -, hAbsent, hMisses, -⟩ := queries_agree hFresh (.switch false hFresh)
    (.arm .reset hFresh) hFresh Sample.orderProfile .setter path
  have hNot : ((Sample.orderProfile.hasAt .setter path).run Sample.shop fresh).1 = .ok false := by
    rw [hFresh.run_eq_eval]
    show (Sample.orderProfile.hasAt .setter (.parse "customer.nick.first")).eval Sample.shop = _
    cbv
  obtain ⟨kind, name, owner, hType, hAccessor⟩ := hAbsent.mp hNot
  exact ⟨hNot, kind, name, owner, hType, hAccessor, hMisses kind name owner hType⟩

end Profile

end Introspect
