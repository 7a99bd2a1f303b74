import Introspect.Proofs.Profile.Alike
import Introspect.Proofs.Resolution.Composition
import Introspect.Proofs.Resolution.Shadowing

/-!
# What an index holds

An index says which element of a collection is meant, and that is for whoever holds the collection to
know. Questions about a path never look at it: they only ask whether a segment has one, and even that
matters nowhere but at a property whose values are a collection with elements of a known type.

* `Segment.SameButIndex` and `Path.SameButIndexes`: the same names, and indexes in the same places,
  whatever they hold.
* `Source.HoldsElements`: values of a type are a collection, and the type says of what.
* `Source.typedAlong`: the property at the end of a path with the type of its values, from which all
  answers about one direction are read off.
* `Profile.SameAnswers`: two paths of which all questions about either direction have the same answers.

Main results:

* `typedAlong_sameButIndexes` and `typedAlong_bare`: a walk does not see what indexes hold, nor most of
  the indexes.
* `findAlong_sameButIndexes`: a search copies indexes, and sees no more of them.
* `index_texts_irrelevant`: both of it for texts, through whatever caches.
-/

namespace Introspect

variable {V : Type} {source : Source V} {type : TypeName} {profile child : Profile V}
  {direction : Direction} {camelCase : Bool} {segment other next : Segment}
  {rest others before after : List Segment}

/-! ## Segments and paths up to their indexes -/

namespace Segment

/-- Both name the same property, and either both have an index or neither has. -/
structure SameButIndex (segment other : Segment) : Prop where
  name_eq : other.name = segment.name
  isIndexed_eq : other.isIndexed = segment.isIndexed

/-- The segment without its index. -/
def bare (segment : Segment) : Segment := ⟨segment.name⟩

theorem name_bare : segment.bare.name = segment.name := name_of_notMem segment.bracket_notMem_name

end Segment

/-- One has the names of the other, and indexes in the same places. -/
def Path.SameButIndexes (path other : Path) : Prop :=
  List.Forall₂ Segment.SameButIndex path.segments other.segments

/-! ## Where an index matters -/

namespace Source

/-- Values of the type are a collection, and its one argument says what the elements are; a bare
parameter does not say it. -/
def HoldsElements (source : Source V) (type : TypeExpr) : Prop :=
  source.isCollection type.valueType = true ∧
    ∃ argument, type.arguments = [argument] ∧ ∀ name, argument ≠ .parameter name

/-- Where no elements are known, an index leads to the same type as none. -/
theorem target_eq_valueType {type : TypeExpr} (h : ¬source.HoldsElements type) (indexed : Bool) :
    source.target indexed type = type.valueType := by
  unfold target
  split
  · rename_i hIndexed
    have hCollection : source.isCollection type.valueType = true :=
      ((Bool.and_eq_true _ _).mp hIndexed).2
    -- it is a collection, so its elements are not known
    have hUnknown : type.elementType? = none := by
      rw [TypeExpr.elementType?, Option.bind_eq_none_iff]
      intro argument hSole
      have hOne : type.arguments = [argument] := by
        unfold TypeExpr.soleArgument? at hSole
        split at hSole
        · cases hSole
          assumption
        · cases hSole
      cases argument with
      | parameter name => rfl
      | named element =>
        have hKnown : ∀ name, TypeExpr.named element ≠ .parameter name := by simp
        exact absurd ⟨hCollection, _, hOne, hKnown⟩ h
      | applied element arguments =>
        have hKnown : ∀ name, TypeExpr.applied element arguments ≠ .parameter name := by simp
        exact absurd ⟨hCollection, _, hOne, hKnown⟩ h
    rw [hUnknown]
    rfl
  · -- without an index the values are taken as they are
    rfl

/-! ## Walks -/

/-- The property at the end of some segments, and the type that its own segment leads to. -/
def typedAlong (source : Source V) (direction : Direction) (profile : Profile V) (segment : Segment)
    (rest : List Segment) : Except PropertyError (Property V × TypeName) :=
  (fun property => (property, source.target (rest.getLastD segment).isIndexed property.type)) <$>
    source.propertyAlong direction profile segment rest

/-- At the end of one segment is its property, and its index alone decides where it leads. -/
theorem typedAlong_nil :
    source.typedAlong direction profile segment [] =
      (fun property => (property, source.target segment.isIndexed property.type)) <$>
        profile.property direction segment.name := rfl

/-- A walk along several segments takes the first step, and is a walk along the others from there.
-/
theorem typedAlong_cons :
    source.typedAlong direction profile segment (next :: rest) = (do
      let child ← source.step profile segment
      source.typedAlong direction child next rest) := by
  unfold typedAlong
  rw [propertyAlong, List.getLastD_cons]
  cases source.step profile segment <;> rfl

/-- **A walk does not see what indexes hold.** -/
theorem typedAlong_sameButIndexes (hFirst : segment.SameButIndex other)
    (hRest : List.Forall₂ Segment.SameButIndex rest others) :
    source.typedAlong direction profile other others =
      source.typedAlong direction profile segment rest := by
  -- by the segments behind the first; steps are the same for names that are the same
  induction hRest generalizing profile segment other with
  | nil => rw [typedAlong_nil, typedAlong_nil, hFirst.name_eq, hFirst.isIndexed_eq]
  | cons hNext _ ih =>
    rw [typedAlong_cons, typedAlong_cons, step_congr hFirst.name_eq hFirst.isIndexed_eq]
    cases source.step profile segment with
    | error cause => rfl
    | ok child => exact ih hNext

/-- **A walk sees no index where no elements are known**: without it, the walk goes the same way. -/
theorem typedAlong_bare {first first' : Segment} {rest rest' : List Segment}
    (hPath : first :: rest = before ++ segment :: after)
    (hBare : first' :: rest' = before ++ segment.bare :: after)
    (hIdle : ∀ reached, source.follow profile before = .ok reached →
      ∀ direction property, reached.property direction segment.name = .ok property →
        ¬source.HoldsElements property.type) :
    source.typedAlong direction profile first' rest' =
      source.typedAlong direction profile first rest := by
  -- along the segments before the one in question, which are the same on both sides
  induction before generalizing profile first first' rest rest' with
  | nil =>
    cases hPath
    -- it is the segment in question, which leads to the same type with its index and without it
    cases hBare
    have hTarget : ∀ direction property, profile.property direction segment.name = .ok property →
        source.target segment.bare.isIndexed property.type =
          source.target segment.isIndexed property.type := by
      intro direction property hProperty
      have hNone := hIdle profile rfl direction property hProperty
      rw [target_eq_valueType hNone, target_eq_valueType hNone]
    cases after with
    | nil =>
      rw [typedAlong_nil, typedAlong_nil, Segment.name_bare]
      cases hProperty : profile.property direction segment.name with
      | error cause =>
        show Except.error cause = Except.error cause
        rfl
      | ok property =>
        show Except.ok (property, _) = Except.ok (property, _)
        rw [hTarget direction property hProperty]
    | cons next rest =>
      have hStep : source.step profile segment.bare = source.step profile segment := by
        unfold step
        rw [Segment.name_bare]
        cases hProperty : profile.readProperty segment.name with
        | error cause =>
          show Except.error cause = Except.error cause
          rfl
        | ok property => exact congrArg source.profile (hTarget .getter property hProperty)
      rw [typedAlong_cons, typedAlong_cons, hStep]
  | cons head before ih =>
    obtain ⟨rfl, hRest⟩ := List.cons.inj hPath
    obtain ⟨rfl, hRest'⟩ := List.cons.inj hBare
    -- the segment in question is still to come, so both walks take the same step
    obtain ⟨next, others, rfl⟩ : ∃ next others, rest = next :: others :=
      List.exists_cons_of_ne_nil (by simp [hRest])
    obtain ⟨next', others', rfl⟩ : ∃ next others, rest' = next :: others :=
      List.exists_cons_of_ne_nil (by simp [hRest'])
    rw [typedAlong_cons, typedAlong_cons]
    cases hStep : source.step profile first' with
    | error cause => rfl
    | ok child =>
      refine ih hRest hRest' fun reached hFollow => hIdle reached ?_
      rwa [follow_cons before hStep]

end Source

namespace Profile

/-! ## Searches -/

/-- Two segments that differ in what their indexes hold stand for two that differ in the same. -/
theorem respell?_sameButIndex (camelCase : Bool) (hProfile : source.profile type = .ok profile)
    (hSegment : segment.SameButIndex other) :
    Option.Rel Segment.SameButIndex (profile.respell? camelCase segment)
      (profile.respell? camelCase other) := by
  cases hName : profile.findName? (lookupName camelCase segment.name) with
  | none =>
    have hOther : profile.findName? (lookupName camelCase other.name) = none := by
      rw [hSegment.name_eq, hName]
    unfold respell?
    rw [hName, hOther]
    exact .none
  -- both are looked up under the same name
  | some name =>
    have hOther : profile.findName? (lookupName camelCase other.name) = some name := by
      rw [hSegment.name_eq, hName]
    have hFound := respell?_of_findName? hName
    have hFound' := respell?_of_findName? hOther
    rw [hFound, hFound']
    -- both are the name that was found, with the index of their own
    have hStands := standsFor_of_respell? hProfile hFound
    have hStands' := standsFor_of_respell? hProfile hFound'
    refine .some ⟨?_, ?_⟩
    · have hBoth := hStands'.looked.symm.trans (hOther.trans (hName.symm.trans hStands.looked))
      exact Option.some.inj hBoth
    · rw [hStands'.isIndexed_eq, hStands.isIndexed_eq, hSegment.isIndexed_eq]

/-- **A search copies indexes, and sees no more of them**: searches for paths that differ in what
their indexes hold fail alike, find nothing alike, or find paths that differ in the same. -/
theorem findAlong_sameButIndexes (hProfile : source.profile type = .ok profile)
    (hFirst : segment.SameButIndex other)
    (hRest : List.Forall₂ Segment.SameButIndex rest others) :
    SameOutcome (Option.Rel (List.Forall₂ Segment.SameButIndex))
      ((profile.findAlong camelCase segment rest).eval source)
      ((profile.findAlong camelCase other others).eval source) := by
  -- by the segments behind the first; what is found for the first two is the same up to its index
  induction hRest generalizing type profile segment other with
  | nil =>
    have hFound := respell?_sameButIndex camelCase hProfile hFirst
    rw [eval_findAlong_nil, eval_findAlong_nil]
    generalize profile.respell? camelCase segment = found?,
      profile.respell? camelCase other = found'? at hFound ⊢
    cases hFound with
    | none => exact .ok .none
    | some hSame => exact .ok (.some (.cons hSame .nil))
  | cons hNext _ ih =>
    have hFound := respell?_sameButIndex camelCase hProfile hFirst
    rw [eval_findAlong_cons hProfile, eval_findAlong_cons hProfile]
    generalize profile.respell? camelCase segment = found?,
      profile.respell? camelCase other = found'? at hFound ⊢
    cases hFound with
    | none => exact .ok .none
    | @some found found' hSame =>
      -- both lead to the same profile, or to none
      dsimp only
      rw [hSame.name_eq, Source.step_congr hSame.name_eq hSame.isIndexed_eq]
      split
      · cases hStep : source.step profile found with
        | error cause => exact .error cause
        | ok child =>
          obtain ⟨_, hChild⟩ := Source.profile_of_step hStep
          refine (ih hChild hNext).bind fun below below' hBelow => ?_
          cases hBelow with
          | none => exact .ok .none
          | some hLater => exact .ok (.some (.cons hSame hLater))
      · exact .ok .none

/-- Searches for two paths that differ in what their indexes hold find the same up to the indexes.
-/
theorem findPath_sameButIndexes (hProfile : source.profile type = .ok profile) {path other : Path}
    (hSame : path.SameButIndexes other) :
    SameOutcome (Option.Rel Path.SameButIndexes) ((profile.findPath camelCase path).eval source)
      ((profile.findPath camelCase other).eval source) := by
  obtain ⟨hHead, hTail⟩ := List.forall₂_cons.mp hSame
  rw [eval_findPath, eval_findPath]
  refine (findAlong_sameButIndexes hProfile hHead hTail).bind fun found? found'? hFound => ?_
  cases hFound with
  | none => exact .ok .none
  | some hSegments =>
    cases hSegments with
    | nil => exact .ok .none
    | cons hFirst hRest => exact .ok (.some (.cons hFirst hRest))

/-! ## The main result -/

/-- The questions about either direction of two paths have the same answers, failures included. -/
def SameAnswers (source : Source V) (profile : Profile V) (c₁ c₂ : Cache V) (path other : Path) :
    Prop :=
  ∀ direction,
    ((profile.hasAt direction path).run source c₁).1 =
      ((profile.hasAt direction other).run source c₂).1 ∧
    ((profile.typeAt direction path).run source c₁).1 =
      ((profile.typeAt direction other).run source c₂).1 ∧
    ((profile.accessorAt direction path).run source c₁).1 =
      ((profile.accessorAt direction other).run source c₂).1

/-- Paths with the same properties and the same types at their ends have the same answers. -/
theorem sameAnswers_of_typedAlong {c₁ c₂ : Cache V} (h₁ : c₁.Reachable source)
    (h₂ : c₂.Reachable source) {path other : Path}
    (hSame : ∀ direction, source.typedAlong direction profile other.head other.tail =
      source.typedAlong direction profile path.head path.tail) :
    SameAnswers source profile c₁ c₂ path other := by
  intro direction
  simp only [h₁.run_eq_eval, h₂.run_eq_eval]
  -- each answer is a function of what is at the end
  have hHas : ∀ path : Path, (profile.hasAt direction path).eval source =
      found (source.typedAlong direction profile path.head path.tail) := by
    intro path
    rw [hasAt, eval_hasAlong]
    unfold Source.typedAlong
    cases source.propertyAlong direction profile path.head path.tail with
    | ok property => rfl
    | error cause => cases cause <;> rfl
  have hType : ∀ path : Path, (profile.typeAt direction path).eval source =
      Prod.snd <$> source.typedAlong direction profile path.head path.tail := by
    intro path
    rw [typeAt, eval_typeAlong]
    unfold Source.typedAlong
    cases source.propertyAlong direction profile path.head path.tail <;> rfl
  have hAccessor : ∀ path : Path, (profile.accessorAt direction path).eval source =
      (fun held => held.1.accessor) <$>
        source.typedAlong direction profile path.head path.tail := by
    intro path
    rw [accessorAt, eval_accessorAlong]
    unfold Source.typedAlong
    cases source.propertyAlong direction profile path.head path.tail <;> rfl
  rw [hHas, hHas, hType, hType, hAccessor, hAccessor, hSame direction]
  exact ⟨rfl, rfl, rfl⟩

/--
**What indexes hold is nothing to the answers about a path**, through whatever caches. Two texts with
the same names, and with indexes in the same places, have the same answers in both directions: whether
they can be used, of what type the values are, by which accessor they are reached, and why there is no
answer. What they find is the same up to the indexes, each of which is what stands in the text. And
without the index of one segment the answers are still the same, unless the property that the segment
names, there where the segments before it lead, has values that are a collection of elements of a known
type.
-/
theorem index_texts_irrelevant {c₁ c₂ : Cache V} (h₁ : c₁.Reachable source)
    (h₂ : c₂.Reachable source) (hProfile : source.profile type = .ok profile)
    (text changed : String) :
    let path := Path.parse text
    let other := Path.parse changed
    (path.SameButIndexes other →
      SameAnswers source profile c₁ c₂ path other ∧
      ∀ camelCase,
        SameOutcome (Option.Rel Path.SameButIndexes)
          ((profile.findPath camelCase path).run source c₁).1
          ((profile.findPath camelCase other).run source c₂).1 ∧
        ∀ found, ((profile.findPath camelCase path).run source c₁).1 = .ok (some found) →
          found.segments.map Segment.index? = path.segments.map Segment.index?) ∧
    ∀ before segment after, path.segments = before ++ segment :: after →
      other.segments = before ++ segment.bare :: after →
      (∀ reached, source.follow profile before = .ok reached →
        ∀ direction property, reached.property direction segment.name = .ok property →
          ¬source.HoldsElements property.type) →
      SameAnswers source profile c₁ c₂ path other := by
  intro path other
  refine ⟨?_, ?_⟩
  · intro hSame
    obtain ⟨hHead, hTail⟩ := List.forall₂_cons.mp hSame
    refine ⟨sameAnswers_of_typedAlong h₁ h₂ fun direction =>
      Source.typedAlong_sameButIndexes hHead hTail, ?_⟩
    intro camelCase
    simp only [h₁.run_eq_eval, h₂.run_eq_eval]
    refine ⟨findPath_sameButIndexes hProfile hSame, ?_⟩
    intro found hFound
    exact ((eval_findPath_eq_some_iff hProfile).mp hFound).map_index?_eq hProfile
  · intro before segment after hPath hBare hIdle
    exact sameAnswers_of_typedAlong h₁ h₂ fun direction =>
      Source.typedAlong_bare hPath hBare hIdle

end Profile

namespace Sample

theorem profile_tree : trees.profile Stock.node.type = .ok treeProfile := by
  have hBuilt : (trees.profile Stock.node.type).isOk = true := by cbv
  exact profile_eq_profileOf hBuilt

end Sample

namespace Profile

/-- Which child of a tree is meant makes no difference, not even if its index is left open; and an
order's customer is no collection, so that an index on it may as well be left out. -/
theorem index_texts_irrelevant_tree :
    let fresh : Cache Value := .create .standard
    ((Path.parse "children[0].VALUE").SameButIndexes (.parse "children[last.VALUE") ∧
      SameAnswers Sample.trees Sample.treeProfile fresh fresh (.parse "children[0].VALUE")
        (.parse "children[last.VALUE") ∧
      ((Sample.treeProfile.findPath false (.parse "children[0].VALUE")).run Sample.trees fresh).1 =
        .ok (some ⟨⟨"children[0]"⟩, [⟨"value"⟩]⟩)) ∧
    SameAnswers Sample.shop Sample.orderProfile fresh fresh (.parse "customer[key_1].name")
      (.parse "customer.name") := by
  intro fresh
  have hTrees : fresh.Reachable Sample.trees := .create _
  have hShop : fresh.Reachable Sample.shop := .create _
  constructor
  · -- the two texts have the same names, and an index at the first of them
    have hSame : (Path.parse "children[0].VALUE").SameButIndexes (.parse "children[last.VALUE") := by
      have hPath : (Path.parse "children[0].VALUE").segments = [⟨"children[0]"⟩, ⟨"VALUE"⟩] := by
        cbv
      have hOther : (Path.parse "children[last.VALUE").segments =
          [⟨"children[last"⟩, ⟨"VALUE"⟩] := by cbv
      unfold Path.SameButIndexes
      rw [hPath, hOther]
      exact .cons ⟨by cbv, by cbv⟩ (.cons ⟨rfl, rfl⟩ .nil)
    have hAnswers := (index_texts_irrelevant hTrees hTrees Sample.profile_tree "children[0].VALUE"
      "children[last.VALUE").1 hSame
    have hFound : ((Sample.treeProfile.findPath false (.parse "children[0].VALUE")).run Sample.trees
        fresh).1 = .ok (some ⟨⟨"children[0]"⟩, [⟨"value"⟩]⟩) := (hTrees.run_eq_eval _).trans (by cbv)
    exact ⟨hSame, hAnswers.1, hFound⟩
  · -- the first segment is the one in question, and nothing leads to it
    have hPath : (Path.parse "customer[key_1].name").segments =
        [] ++ ⟨"customer[key_1]"⟩ :: [⟨"name"⟩] := by cbv
    have hBare : (Path.parse "customer.name").segments =
        [] ++ (Segment.mk "customer[key_1]").bare :: [⟨"name"⟩] := by cbv
    refine (index_texts_irrelevant hShop hShop Sample.profile_order "customer[key_1].name"
      "customer.name").2 _ _ _ hPath hBare fun reached hFollow direction property hProperty => ?_
    -- whichever way the customer is reached, its type has no arguments
    obtain rfl : Sample.orderProfile = reached := Except.ok.inj hFollow
    have hArguments : ∀ direction, (Sample.orderProfile.property direction
        (Segment.mk "customer[key_1]").name).toOption.all (·.type.arguments.isEmpty) = true := by
      intro direction
      cases direction <;> cbv
    rintro ⟨-, argument, hOne, -⟩
    have hNone := hArguments direction
    rw [hProperty] at hNone
    simp [Except.toOption, hOne] at hNone

end Profile

end Introspect
