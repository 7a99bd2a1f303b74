import Introspect.Proofs.LiveValue.Resolved
import Introspect.Proofs.Path

/-!
# Paths in two parts

A path that goes on after another one is followed in two parts: what is asked about the whole is
asked about the second part, of the type that the first part leads to. A segment leads to the same
type whether it is the last of a path or has others after it, indexes included, so it does not matter
where the path is cut. Values are read in two parts in the same way.

Main results:

* `propertyAlong_append` and `eval_readAlong_append`: walks and reads in two parts.
* `path_queries_compose`: the same for texts, through whatever caches.
-/

namespace Introspect

variable {V : Type} {source : Source V} {profile : Profile V} {direction : Direction}
  {segment next : Segment} {rest more : List Segment} {object : V}

/-! ## Walks -/

theorem Path.head_append (front rest : Path) : (front ++ rest).head = front.head := rfl

theorem Path.tail_append (front rest : Path) :
    (front ++ rest).tail = front.tail ++ rest.head :: rest.tail := rfl

theorem Path.last_append (front rest : Path) :
    (front ++ rest).tail.getLastD (front ++ rest).head = rest.tail.getLastD rest.head := by
  rw [tail_append, List.getLastD_eq_getLast?, List.getLast?_append, List.getLast?_cons,
    Option.some_or, Option.getD_some, List.getLastD_eq_getLast?]

namespace Source

/-- **A walk in two parts**: the first part is read, and the second starts at the type of what was
read. -/
theorem propertyAlong_append :
    source.propertyAlong direction profile segment (rest ++ next :: more) = (do
      let reading ← source.propertyAlong .getter profile segment rest
      let child ← source.profile (source.target (rest.getLastD segment).isIndexed reading.type)
      source.propertyAlong direction child next more) := by
  -- by the segments of the first part; where it is a single one, its step is the reading of the
  -- property
  induction rest generalizing profile segment with
  | nil =>
    show (source.step profile segment >>= _) = (profile.readProperty segment.name >>= _)
    unfold step
    cases profile.readProperty segment.name <;> rfl
  | cons second rest ih =>
    rw [List.cons_append, propertyAlong, propertyAlong, List.getLastD_cons]
    cases source.step profile segment with
    | error cause => rfl
    | ok child => exact ih

end Source

namespace Profile

variable {front below : Path}

/-- What is known of the walk along the front of a path whose values have a type. -/
theorem propertyAlong_of_typeAt (direction : Direction) (below : Path) {type : TypeName}
    (hType : (profile.typeAt .getter front).eval source = .ok type) :
    source.propertyAt direction profile (front ++ below) =
      source.profile type >>= fun child => source.propertyAt direction child below := by
  -- the type of the front is that of the property at its end, so the front has one
  rw [typeAt, eval_typeAlong] at hType
  unfold Source.propertyAt
  rw [Path.head_append, Path.tail_append, Source.propertyAlong_append]
  cases hReading : source.propertyAlong .getter profile front.head front.tail with
  | error cause =>
    rw [hReading] at hType
    cases hType
  | ok reading =>
    rw [hReading] at hType
    cases hType
    rfl

/-- What can be found where a type leads is found, or else the type has no profile. -/
theorem found_profile_bind {α : Type} {type : TypeName}
    (goOn : Profile V → Except PropertyError α) :
    found (source.profile type >>= goOn) =
      source.profile type >>= fun child => found (goOn child) := by
  cases hProfile : source.profile type with
  | ok child => rfl
  | error cause => exact found_of_isAmbiguous (Source.isAmbiguous_of_profile hProfile)

/-- Asking for the profile of a type and going on is going on with what the source builds for it. -/
theorem eval_profile_bind {α : Type} {type : TypeName} (ask : Profile V → Inquiry V α) :
    (Inquiry.profile type >>= ask).eval source =
      source.profile type >>= fun child => (ask child).eval source := by
  rw [Inquiry.eval_bind, Inquiry.eval_profile]

/-- Whether the whole can be used is asked of the type that the first part leads to. -/
theorem eval_hasAt_append {type : TypeName}
    (hType : (profile.typeAt .getter front).eval source = .ok type) :
    (profile.hasAt direction (front ++ below)).eval source =
      (Inquiry.profile type >>= fun child => child.hasAt direction below).eval source := by
  have hWalk := propertyAlong_of_typeAt direction below hType
  rw [eval_profile_bind, hasAt, eval_hasAlong]
  simp only [hasAt, eval_hasAlong]
  show found (source.propertyAt direction profile (front ++ below)) = _
  rw [hWalk, found_profile_bind]
  rfl

/-- The accessor at the end of the whole is asked of the type that the first part leads to. -/
theorem eval_accessorAt_append {type : TypeName}
    (hType : (profile.typeAt .getter front).eval source = .ok type) :
    (profile.accessorAt direction (front ++ below)).eval source =
      (Inquiry.profile type >>= fun child => child.accessorAt direction below).eval source := by
  have hWalk := propertyAlong_of_typeAt direction below hType
  rw [eval_profile_bind, accessorAt, eval_accessorAlong]
  simp only [accessorAt, eval_accessorAlong]
  show Property.accessor <$> source.propertyAt direction profile (front ++ below) = _
  rw [hWalk]
  cases source.profile type <;> rfl

/-- The type of the values of the whole is asked of the type that the first part leads to. -/
theorem eval_typeAt_append {type : TypeName}
    (hType : (profile.typeAt .getter front).eval source = .ok type) :
    (profile.typeAt direction (front ++ below)).eval source =
      (Inquiry.profile type >>= fun child => child.typeAt direction below).eval source := by
  have hWalk := propertyAlong_of_typeAt direction below hType
  rw [eval_profile_bind, typeAt, eval_typeAlong, Path.last_append]
  simp only [typeAt, eval_typeAlong]
  show _ <$> source.propertyAt direction profile (front ++ below) = _
  rw [hWalk]
  cases source.profile type <;> rfl

/-- Nothing is found after what cannot be read. -/
theorem eval_hasAt_append_of_false
    (hMissing : (profile.hasAt .getter front).eval source = .ok false) :
    -- what the first part lacks, the whole lacks at the same segment
    (profile.hasAt direction (front ++ below)).eval source = .ok false := by
  rw [hasAt, eval_hasAlong] at hMissing
  rw [hasAt, eval_hasAlong, Path.head_append, Path.tail_append, Source.propertyAlong_append]
  cases hReading : source.propertyAlong .getter profile front.head front.tail with
  | ok reading =>
    rw [hReading] at hMissing
    cases hMissing
  | error cause =>
    rw [hReading] at hMissing
    exact hMissing

/-! ## Reads -/

/-- **A read in two parts**: the second part starts at the value that the first one found, as one of
the type that the first part leads to. -/
theorem eval_readAlong_append :
    (profile.readAlong object segment (rest ++ next :: more)).eval source = (do
      match ← (profile.readAlong object segment rest).eval source with
      | none => .ok none
      | some held =>
        let type ← (profile.typeAlong .getter segment rest).eval source
        let child ← source.profile type
        (child.readAlong held next more).eval source) := by
  -- by the segments of the first part
  induction rest generalizing profile object segment with
  | nil =>
    cases hIndexed : segment.isIndexed with
    | true =>
      rw [eval_readAlong_indexed hIndexed, eval_readAlong_indexed hIndexed]
      rfl
    | false =>
      rw [List.nil_append, eval_readAlong_cons hIndexed, eval_readAlong_nil hIndexed]
      cases (profile.readStep object segment.name).eval source with
      | error cause => rfl
      | ok current =>
        cases current with
        -- a value that is absent ends the read on both sides
        | none => rfl
        | some held =>
          -- the type of the last segment of a path is the one that a step leads to
          show (source.step profile segment >>= _) = _
          rw [eval_typeAlong]
          unfold Source.step
          show _ = ((fun property : Property V => source.target segment.isIndexed property.type) <$>
            profile.readProperty segment.name) >>= _
          cases profile.readProperty segment.name <;> rfl
  | cons second rest ih =>
    -- an index ends both reads at the first segment
    cases hIndexed : segment.isIndexed with
    | true =>
      rw [eval_readAlong_indexed hIndexed, eval_readAlong_indexed hIndexed]
      rfl
    | false =>
      rw [List.cons_append, eval_readAlong_cons hIndexed, eval_readAlong_cons hIndexed]
      cases (profile.readStep object segment.name).eval source with
      | error cause => rfl
      | ok current =>
        cases current with
        | none => rfl
        | some held =>
          rw [typeAlong, Inquiry.eval_bind, eval_child]
          cases hStep : source.step profile segment with
          | error cause => simp only [bind, Except.bind]
          | ok child =>
            simp only [bind, Except.bind]
            exact ih

/-- A value is read along the whole by reading the first part, and from what is there the second. -/
theorem eval_readAt_append :
    (profile.readAt object (front ++ below)).eval source = (do
      match ← (profile.readAt object front).eval source with
      | none => .ok none
      | some held =>
        let type ← (profile.typeAt .getter front).eval source
        (Inquiry.profile type >>= (·.readAt held below)).eval source) := by
  simp only [eval_profile_bind]
  exact eval_readAlong_append

/-- A value that is read has a type. -/
theorem exists_typeAt_of_readAt {held : V}
    (hRead : (profile.readAt object front).eval source = .ok (some held)) :
    ∃ type, (profile.typeAt .getter front).eval source = .ok type := by
  -- a read that gives a value has read all properties on its way
  obtain ⟨-, property, -, hProperty, -⟩ := (eval_readAlong_eq_ok_iff.mp hRead).resolves
  rw [typeAt, eval_typeAlong, hProperty]
  exact ⟨_, rfl⟩

/-! ## The main result -/

/--
**A path in two parts is followed in two parts**, through whatever caches. Where the values of the
first part have a type, all six questions about the whole are what the same questions about the
second part are of that type, or what keeps the type from having a profile. Where the first part
cannot be read, nothing can be found along the whole. And a value is read along the whole by reading
along the second part from the value that the first part gives, as one of the type of the first
part; an absent value, and a failure, are those of the first part.
-/
theorem path_queries_compose {c₁ c₂ : Cache V} (h₁ : c₁.Reachable source)
    (h₂ : c₂.Reachable source) (profile : Profile V) (front rest : String) :
    let whole := Path.parse (front ++ "." ++ rest)
    (∀ type, ((profile.typeAt .getter (.parse front)).run source c₁).1 = .ok type →
      ∀ direction,
        ((profile.hasAt direction whole).run source c₁).1 =
          ((Inquiry.profile type >>= (·.hasAt direction (.parse rest))).run source c₂).1 ∧
        ((profile.typeAt direction whole).run source c₁).1 =
          ((Inquiry.profile type >>= (·.typeAt direction (.parse rest))).run source c₂).1 ∧
        ((profile.accessorAt direction whole).run source c₁).1 =
          ((Inquiry.profile type >>= (·.accessorAt direction (.parse rest))).run source c₂).1) ∧
    (((profile.hasAt .getter (.parse front)).run source c₁).1 = .ok false →
      ∀ direction, ((profile.hasAt direction whole).run source c₁).1 = .ok false) ∧
    ∀ object,
      (∀ held, ((profile.readAt object (.parse front)).run source c₁).1 = .ok (some held) →
        ∃ type, ((profile.typeAt .getter (.parse front)).run source c₁).1 = .ok type ∧
          ((profile.readAt object whole).run source c₁).1 =
            ((Inquiry.profile type >>= (·.readAt held (.parse rest))).run source c₂).1) ∧
      (((profile.readAt object (.parse front)).run source c₁).1 = .ok none →
        ((profile.readAt object whole).run source c₁).1 = .ok none) ∧
      ∀ cause, ((profile.readAt object (.parse front)).run source c₁).1 = .error cause →
        ((profile.readAt object whole).run source c₁).1 = .error cause := by
  intro whole
  have hWhole : whole = Path.parse front ++ Path.parse rest := Path.parse_append_dot front rest
  simp only [h₁.run_eq_eval, h₂.run_eq_eval, hWhole]
  refine ⟨?_, ?_, ?_⟩
  · -- what the first part leads to has a profile, or the reason why it has none is the answer
    intro type hType direction
    exact ⟨eval_hasAt_append hType, eval_typeAt_append hType, eval_accessorAt_append hType⟩
  · -- the first part cannot be read
    intro hMissing direction
    exact eval_hasAt_append_of_false hMissing
  · intro object
    refine ⟨?_, ?_, ?_⟩
    · -- the first part gives a value
      intro held hFront
      obtain ⟨type, hType⟩ := exists_typeAt_of_readAt hFront
      refine ⟨type, hType, ?_⟩
      rw [eval_readAt_append, hFront]
      simp only [bind, Except.bind, hType]
    · -- the first part gives none
      intro hFront
      rw [eval_readAt_append, hFront]
      rfl
    · -- the first part fails
      intro cause hFront
      rw [eval_readAt_append, hFront]
      rfl

end Profile

namespace Sample

/-- Trees, the children of which are a sequence of trees. -/
def trees : Source Value := (Stock.register .standard Stock.node).toSource

/-- The profile of trees. -/
def treeProfile : Profile Value := profileOf trees Stock.node.type

end Sample

namespace Profile

/-- A child of a tree is a tree, and its value is a number because that of a tree is; a tree has no
leaves, so nothing below them can be written; and the name of an order's customer is read from the
customer. -/
theorem path_queries_compose_tree :
    let fresh : Cache Value := .create .standard
    (((Sample.treeProfile.typeAt .getter (.parse "children[0]")).run Sample.trees fresh).1 =
        .ok Stock.node.type ∧
      ((Sample.treeProfile.typeAt .setter (.parse ("children[0]" ++ "." ++ "value"))).run
          Sample.trees fresh).1 =
        ((Inquiry.profile Stock.node.type >>= (·.typeAt .setter (.parse "value"))).run Sample.trees
          fresh).1) ∧
    (((Sample.treeProfile.hasAt .getter (.parse "leaves")).run Sample.trees fresh).1 = .ok false ∧
      ((Sample.treeProfile.hasAt .setter (.parse ("leaves" ++ "." ++ "value"))).run Sample.trees
        fresh).1 = .ok false) ∧
    ∃ held, ((Sample.orderProfile.readAt Sample.adasOrder (.parse "customer")).run Sample.shop
        fresh).1 = .ok (some held) ∧
      ∃ type, ((Sample.orderProfile.readAt Sample.adasOrder
          (.parse ("customer" ++ "." ++ "name"))).run Sample.shop fresh).1 =
        ((Inquiry.profile type >>= (·.readAt held (.parse "name"))).run Sample.shop fresh).1 := by
  intro fresh
  have hTrees : fresh.Reachable Sample.trees := .create _
  have hShop : fresh.Reachable Sample.shop := .create _
  refine ⟨?_, ?_, ?_⟩
  · have hType : ((Sample.treeProfile.typeAt .getter (.parse "children[0]")).run Sample.trees
        fresh).1 = .ok Stock.node.type := (hTrees.run_eq_eval _).trans (by cbv)
    exact ⟨hType, ((path_queries_compose hTrees hTrees Sample.treeProfile "children[0]" "value").1
      _ hType .setter).2.1⟩
  · have hMissing : ((Sample.treeProfile.hasAt .getter (.parse "leaves")).run Sample.trees
        fresh).1 = .ok false := (hTrees.run_eq_eval _).trans (by cbv)
    exact ⟨hMissing, (path_queries_compose hTrees hTrees Sample.treeProfile "leaves" "value").2.1
      hMissing .setter⟩
  · have hRead : ((Sample.orderProfile.readAt Sample.adasOrder (.parse "customer")).run Sample.shop
        fresh).1 = .ok (some (.slots [("name", some (.text "Ada"))])) :=
      (hShop.run_eq_eval _).trans (by cbv)
    obtain ⟨type, -, hWhole⟩ := ((path_queries_compose hShop hShop Sample.orderProfile "customer"
      "name").2.2 Sample.adasOrder).1 _ hRead
    exact ⟨_, hRead, type, hWhole⟩

end Profile

end Introspect
