import Introspect.Proofs.Resolution.Canonical

/-!
# Paths without their underscores

Where underscores are ignored, they are left out of the names that are looked for, and of no others.
So a search goes the way that the same path without them would go, and what has an underscore in its
own name is out of its reach: ignoring underscores finds `userName` for `USER_NAME`, and loses
`user_name` for it.

* `Path.withoutUnderscores`: a path with the underscores of its names left out.

Main results:

* `findPath_ignoring`: a search that ignores underscores is a plain one for the path without them.
* `Respells.plain_iff`: what a plain search finds has underscores in its names exactly where the path
  that was searched for has some.
* `ignoring_underscores_keeps`: which of the paths that are found are still found where underscores
  are ignored.
-/

namespace Introspect

variable {V : Type} {source : Source V} {type : TypeName} {profile : Profile V}
  {segment found : Segment} {rest others : List Segment}

/-! ## Leaving out underscores -/

namespace Segment

/-- The segment with the underscores of its name left out; its index stays. -/
def withoutUnderscores (segment : Segment) : Segment :=
  ofNameIndex (String.ofList (segment.name.toList.filter (· != '_'))) segment.index?

/-- Leaving out underscores adds no bracket to a name. -/
theorem bracket_notMem_filtered (segment : Segment) :
    '[' ∉ (String.ofList (segment.name.toList.filter (· != '_'))).toList := by
  intro hMem
  rw [String.toList_ofList] at hMem
  exact segment.bracket_notMem_name (List.mem_of_mem_filter hMem)

/-- What is left of the name is what is looked for where underscores are ignored. -/
theorem name_withoutUnderscores :
    segment.withoutUnderscores.name = Profile.lookupName true segment.name :=
  name_ofNameIndex segment.bracket_notMem_filtered

theorem index?_withoutUnderscores : segment.withoutUnderscores.index? = segment.index? :=
  index?_ofNameIndex segment.bracket_notMem_filtered

theorem isIndexed_withoutUnderscores :
    segment.withoutUnderscores.isIndexed = segment.isIndexed := by
  unfold isIndexed
  rw [index?_withoutUnderscores]

/-- Leaving out underscores adds no dot to a segment. -/
theorem dot_notMem_withoutUnderscores (hDot : '.' ∉ segment.text.toList) :
    '.' ∉ segment.withoutUnderscores.text.toList := by
  have hName : '.' ∉ (String.ofList (segment.name.toList.filter (· != '_'))).toList := by
    intro hMem
    rw [String.toList_ofList] at hMem
    exact hDot (mem_text_of_mem_name (List.mem_of_mem_filter hMem))
  unfold withoutUnderscores
  cases hIndex : segment.index? with
  | none => exact hName
  | some index =>
    have hInside : '.' ∉ index.toList := fun hMem => hDot (mem_text_of_mem_index hIndex hMem)
    rw [toList_ofNameIndex_some]
    simp only [List.mem_append, List.mem_cons, hName, hInside]
    decide

end Segment

namespace Path

/-- The path with the underscores of its names left out. -/
def withoutUnderscores (path : Path) : Path :=
  ⟨path.head.withoutUnderscores, path.tail.map Segment.withoutUnderscores⟩

/-- The segments of a path that was cut at its dots have none without underscores either. -/
theorem IsCut.withoutUnderscores {path : Path} (h : path.IsCut) :
    path.withoutUnderscores.IsCut := by
  intro segment hSegment
  have hMapped : segment ∈ path.segments.map Segment.withoutUnderscores := hSegment
  obtain ⟨origin, hOrigin, rfl⟩ := List.mem_map.mp hMapped
  exact Segment.dot_notMem_withoutUnderscores (h origin hOrigin)

end Path

/-! ## Searches that ignore underscores -/

namespace Profile

/-- Ignoring underscores is leaving them out of what is searched for. -/
theorem findAlong_ignoring :
    profile.findAlong true segment rest =
      profile.findAlong false segment.withoutUnderscores
        (rest.map Segment.withoutUnderscores) := by
  -- along the segments; the profile that a name leads to does not depend on how it was spelled
  induction rest generalizing profile segment with
  | nil =>
    have hName : lookupName false segment.withoutUnderscores.name = lookupName true segment.name :=
      Segment.name_withoutUnderscores
    unfold findAlong
    rw [hName, Segment.index?_withoutUnderscores]
    rfl
  | cons next rest ih =>
    have hName : lookupName false segment.withoutUnderscores.name = lookupName true segment.name :=
      Segment.name_withoutUnderscores
    rw [List.map_cons]
    unfold findAlong
    rw [hName, Segment.index?_withoutUnderscores, Segment.isIndexed_withoutUnderscores]
    cases profile.findName? (lookupName true segment.name) with
    | none => rfl
    | some name =>
      dsimp only
      congr 1
      funext child?
      cases child? with
      | none => rfl
      | some child =>
        dsimp only
        rw [ih]

/-- **A search that ignores underscores** is a plain one for the path without them. -/
theorem findPath_ignoring (path : Path) :
    profile.findPath true path = profile.findPath false path.withoutUnderscores := by
  unfold findPath
  rw [findAlong_ignoring]
  rfl

end Profile

namespace Source.Respells

/-- A plain search finds names of the same upper-case form, so that **underscores are in what was
found exactly where they are in what was searched for**. -/
theorem plain_iff (h : source.Respells false profile segment rest found others)
    (hProfile : source.profile type = .ok profile) :
    (∀ s ∈ found :: others, '_' ∉ s.name.toList) ↔ ∀ s ∈ segment :: rest, '_' ∉ s.name.toList := by
  -- one segment at a time: upper-casing neither makes nor loses an underscore
  have hOne : ∀ {type : TypeName} {profile : Profile V} {segment found : Segment},
      source.profile type = .ok profile → profile.respell? false segment = some found →
        ('_' ∉ found.name.toList ↔ '_' ∉ segment.name.toList) := by
    intro type profile segment found hProfile hFound
    have hLooked := (Profile.standsFor_of_respell? hProfile hFound).looked
    have hUpper : Text.upper found.name = Text.upper segment.name :=
      (Profile.upper_of_findName? hProfile hLooked).1
    exact not_congr (Text.mem_iff_of_upper_eq (by decide) hUpper)
  -- by the segments that were found
  induction h generalizing type with
  | last hFound => simpa using hOne hProfile hFound
  | deeper hFound hStep _ ih =>
    obtain ⟨_, hChild⟩ := profile_of_step hStep
    have hHere := hOne hProfile hFound
    have hBelow := ih hChild
    simp only [List.forall_mem_cons] at hBelow ⊢
    exact and_congr hHere hBelow

/-- Names without underscores are looked for as they stand. -/
theorem ignoring (h : source.Respells false profile segment rest found others)
    (hPlain : ∀ s ∈ segment :: rest, '_' ∉ s.name.toList) :
    source.Respells true profile segment rest found others := by
  have hOne : ∀ {profile : Profile V} {segment : Segment}, '_' ∉ segment.name.toList →
      profile.respell? true segment = profile.respell? false segment := by
    intro profile segment hName
    have hSame : Profile.lookupName true segment.name = Profile.lookupName false segment.name :=
      Profile.lookupName_eq fun _ => hName
    unfold Profile.respell?
    rw [hSame]
  -- by the segments that were found; what is looked for is the same in each of them
  induction h with
  | last hFound =>
    have hName := hPlain _ List.mem_cons_self
    exact .last ((hOne hName).trans hFound)
  | deeper hFound hStep _ ih =>
    obtain ⟨hName, hRest⟩ := List.forall_mem_cons.mp hPlain
    exact .deeper ((hOne hName).trans hFound) hStep (ih hRest)

end Source.Respells

/-! ## The main result -/

namespace Profile

/--
**Which paths are still found where underscores are ignored**, through whatever caches. A search that
ignores underscores answers what a plain search answers for the text without those in its names, be it
a path, nothing or a failure. So what a plain search finds is found again, by the same text, exactly if
no name in it has an underscore; which is to say, if no name in the text that was searched for has one.
-/
theorem ignoring_underscores_keeps {c₁ c₂ : Cache V} (h₁ : c₁.Reachable source)
    (h₂ : c₂.Reachable source) (hProfile : source.profile type = .ok profile) (text : String) :
    let path := Path.parse text
    ((profile.findPath true path).run source c₁).1 =
      ((profile.findPath false (.parse path.withoutUnderscores.render)).run source c₂).1 ∧
    ∀ found, ((profile.findPath false path).run source c₁).1 = .ok (some found) →
      ((∃ again, ((profile.findPath true path).run source c₂).1 = .ok (some again) ∧
          again.render = found.render) ↔
        ∀ segment ∈ (Path.parse found.render).segments, '_' ∉ segment.name.toList) ∧
      ((∀ segment ∈ (Path.parse found.render).segments, '_' ∉ segment.name.toList) ↔
        ∀ segment ∈ path.segments, '_' ∉ segment.name.toList) := by
  intro path
  simp only [h₁.run_eq_eval, h₂.run_eq_eval]
  have hCut : path.IsCut := Path.isCut_parse text
  have hText : Path.parse path.withoutUnderscores.render = path.withoutUnderscores :=
    Path.parse_render hCut.withoutUnderscores
  refine ⟨?_, ?_⟩
  · rw [hText, findPath_ignoring]
  · intro found hFound
    have hRespells := (eval_findPath_eq_some_iff hProfile).mp hFound
    have hSpelled : Path.parse found.render = found :=
      Path.parse_render (hRespells.dot_notMem hProfile hCut)
    have hNames := hRespells.plain_iff hProfile
    rw [hSpelled]
    refine ⟨⟨?_, ?_⟩, hNames⟩
    · -- what is found ignoring underscores has none, and it is known by its text
      rintro ⟨again, hAgain, hSame⟩
      have hIgnoring := (eval_findPath_eq_some_iff hProfile).mp hAgain
      have hAgainSpelled : Path.parse again.render = again :=
        Path.parse_render (hIgnoring.dot_notMem hProfile hCut)
      have hEq : again = found := by rw [← hAgainSpelled, hSame, hSpelled]
      rw [← hEq]
      exact hIgnoring.underscore_notMem hProfile
    · -- names without underscores are looked for as they stand, so the search is the same
      intro hPlain
      have hAsBefore : source.Respells true profile path.head path.tail found.head found.tail :=
        hRespells.ignoring (hNames.mp hPlain)
      exact ⟨found, (eval_findPath_eq_some_iff hProfile).mpr hAsBefore, rfl⟩

/-- The name of an order's customer has no underscore, so that it is found as before where those are
ignored, whatever the index is; and there it is found with underscores as well, just as it is found
without them elsewhere. -/
theorem ignoring_underscores_keeps_order :
    let fresh : Cache Value := .create .standard
    (∃ found, ((Sample.orderProfile.findPath false (.parse "CUSTOMER[key_1].NAME")).run Sample.shop
        fresh).1 = .ok (some found) ∧
      ∃ again, ((Sample.orderProfile.findPath true (.parse "CUSTOMER[key_1].NAME")).run Sample.shop
        fresh).1 = .ok (some again) ∧ again.render = found.render) ∧
    ((Sample.orderProfile.findPath true (.parse "CUS_TOMER[key_1].NAME")).run Sample.shop fresh).1 =
      ((Sample.orderProfile.findPath false (.parse
        (Path.parse "CUS_TOMER[key_1].NAME").withoutUnderscores.render)).run Sample.shop fresh).1 := by
  intro fresh
  have hCache : fresh.Reachable Sample.shop := .create _
  constructor
  · have hFound : ((Sample.orderProfile.findPath false (.parse "CUSTOMER[key_1].NAME")).run
        Sample.shop fresh).1 = .ok (some ⟨⟨"customer[key_1]"⟩, [⟨"name"⟩]⟩) :=
      (hCache.run_eq_eval _).trans (by cbv)
    obtain ⟨hKept, hNames⟩ :=
      (ignoring_underscores_keeps hCache hCache Sample.profile_order "CUSTOMER[key_1].NAME").2 _
        hFound
    have hPlain : ∀ segment ∈ (Path.parse "CUSTOMER[key_1].NAME").segments,
        '_' ∉ segment.name.toList := by decide +kernel
    exact ⟨_, hFound, hKept.mpr (hNames.mpr hPlain)⟩
  · exact (ignoring_underscores_keeps hCache hCache Sample.profile_order "CUS_TOMER[key_1].NAME").1

end Profile

namespace Sample

/-- Orders and their customers, whose names have an underscore. -/
def orders : Source Value := (Stock.register .standard Stock.order).toSource

/-- The profile of those orders. -/
def ordersProfile : Profile Value := profileOf orders Stock.order.type

theorem profile_orders : orders.profile Stock.order.type = .ok ordersProfile := by
  have hBuilt : (orders.profile Stock.order.type).isOk = true := by cbv
  exact profile_eq_profileOf hBuilt

end Sample

namespace Profile

/-- **Ignoring underscores loses paths.** The name of an order's customer has one in the field as it
is declared; it is found in whatever case, and no longer when underscores are ignored. -/
theorem ignoring_underscores_loses :
    ¬∀ (source : Source Value) (type : TypeName) (profile : Profile Value) (text : String)
        (found : Path), source.profile type = .ok profile →
      ((profile.findPath false (.parse text)).run source (.create .standard)).1 =
        .ok (some found) →
      ((profile.findPath true (.parse text)).run source (.create .standard)).1 =
        .ok (some found) := by
  intro hClaim
  have hCache : (Cache.create .standard : Cache Value).Reachable Sample.orders := .create _
  have hFound : ((Sample.ordersProfile.findPath false (.parse "CUSTOMER.USER_NAME")).run
      Sample.orders (.create .standard)).1 = .ok (some ⟨⟨"customer"⟩, [⟨"user_name"⟩]⟩) :=
    (hCache.run_eq_eval _).trans (by cbv)
  have hLost : ((Sample.ordersProfile.findPath true (.parse "CUSTOMER.USER_NAME")).run
      Sample.orders (.create .standard)).1 = .ok none := (hCache.run_eq_eval _).trans (by cbv)
  have hKept := hClaim Sample.orders Stock.order.type Sample.ordersProfile "CUSTOMER.USER_NAME" _
    Sample.profile_orders hFound
  rw [hLost] at hKept
  cases hKept

end Profile

end Introspect
