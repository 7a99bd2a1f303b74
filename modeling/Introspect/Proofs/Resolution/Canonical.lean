import Introspect.Proofs.Path
import Introspect.Proofs.Profile.Spelling
import Introspect.Proofs.Resolution.Walk
import Introspect.Proofs.Text.Case
import Introspect.Record.Stock

/-!
# Canonical paths

Looking for the names that a path spells gives each segment the name of a property, and leaves the
indexes where they are. What is found is a path again, and its text is one that can be asked about
like any other: no name that is found has a dot or a bracket in it, as no name that was looked for
had one.

* `Profile.respell?`: the segment that a segment stands for.
* `Source.Respells` and `Source.Loses`: a search that finds a path, and one that comes to a segment
  where it finds nothing.

Main results:

* `eval_findPath_eq_some_iff` and `eval_findPath_eq_none_iff`: the relations are what a search
  answers.
* `canonical_path_stable`: what is found finds itself, keeps the indexes and can be used.
-/

namespace Introspect

variable {V : Type} {source : Source V} {type : TypeName} {profile child : Profile V}
  {camelCase : Bool} {segment next found nextFound : Segment} {rest others : List Segment}

/-! ## Single segments -/

namespace Profile

/-- The segment that a segment stands for: the name that it spells, with its own index. -/
def respell? (profile : Profile V) (camelCase : Bool) (segment : Segment) : Option Segment :=
  (profile.findName? (lookupName camelCase segment.name)).map (Segment.ofNameIndex · segment.index?)

/-- A segment stands for the name that it spells, and keeps its index. -/
theorem respell?_of_findName? {name : String}
    (hName : profile.findName? (lookupName camelCase segment.name) = some name) :
    profile.respell? camelCase segment = some (Segment.ofNameIndex name segment.index?) := by
  unfold respell?
  rw [hName]
  rfl

/-- Spellings of one upper-case form find the same name. -/
theorem findName?_congr {spelling other : String} (hUpper : Text.upper spelling = Text.upper other) :
    profile.findName? spelling = profile.findName? other := by
  unfold findName? CaseIndex.find?
  rw [hUpper]

/-- What is looked for has the characters of the name, without underscores where these are ignored.
-/
theorem mem_of_mem_lookupName {c : Char} {name : String}
    (h : c ∈ (lookupName camelCase name).toList) :
    c ∈ name.toList ∧ (camelCase = true → c ≠ '_') := by
  unfold lookupName at h
  split at h
  · rw [String.toList_ofList, List.mem_filter, bne_iff_ne] at h
    exact ⟨h.1, fun _ => h.2⟩
  · rename_i hOff
    exact ⟨h, fun hOn => absurd hOn hOff⟩

/-- Underscores that are not there cannot be ignored. -/
theorem lookupName_eq {name : String} (hPlain : camelCase = true → '_' ∉ name.toList) :
    lookupName camelCase name = name := by
  unfold lookupName
  -- leaving out underscores leaves a name as it is that has none
  split
  · rename_i hOn
    have hAll : name.toList.filter (· != '_') = name.toList := by
      rw [List.filter_eq_self]
      intro c hMem
      rw [bne_iff_ne]
      rintro rfl
      exact hPlain hOn hMem
    rw [hAll, String.ofList_toList]
  · -- nothing is ignored
    rfl

/-- A name that is found has the upper-case form that was asked for, and it has an accessor. -/
theorem upper_of_findName? (hProfile : source.profile type = .ok profile) {spelling name : String}
    (hName : profile.findName? spelling = some name) :
    Text.upper name = Text.upper spelling ∧
      (profile.has .getter name = true ∨ profile.has .setter name = true) := by
  rw [Source.findName?_eq hProfile] at hName
  refine ⟨CaseIndex.upper_of_find? hName, ?_⟩
  obtain ⟨getters, readers, writers, hMakes⟩ := Source.profile_makes hProfile
  -- a name that is found is listed in one of the two tables
  rcases List.mem_append.mp (List.mem_of_find?_eq_some hName) with hReadable | hWritable
  · exact Or.inl (hMakes.readable_lists.mem_names_iff.mp hReadable)
  · exact Or.inr (hMakes.writable_lists.mem_names_iff.mp hWritable)

/-- The name of a property finds some name. -/
theorem exists_findName?_of_has (hProfile : source.profile type = .ok profile)
    {direction : Direction} {name : String} (hHas : profile.has direction name = true) :
    ∃ found, profile.findName? name = some found := by
  obtain ⟨getters, readers, writers, hMakes⟩ := Source.profile_makes hProfile
  have hMem : name ∈ profile.readable.names ++ profile.writable.names := by
    rw [List.mem_append]
    cases direction with
    | getter => exact Or.inl (hMakes.readable_lists.mem_names_iff.mpr hHas)
    | setter => exact Or.inr (hMakes.writable_lists.mem_names_iff.mpr hHas)
  -- the name spells itself
  rw [Source.findName?_eq hProfile, ← Option.isSome_iff_exists, List.find?_isSome]
  exact ⟨name, hMem, beq_self_eq_true _⟩

/-- What there is to know of the segment that another one stands for. -/
structure StandsFor (profile : Profile V) (camelCase : Bool) (segment found : Segment) : Prop where
  looked : profile.findName? (lookupName camelCase segment.name) = some found.name
  itself : profile.findName? found.name = some found.name
  index_eq : found.index? = segment.index?
  made : found = Segment.ofNameIndex found.name segment.index?
  marks : ∀ c, Text.IsMark c → c ∈ found.name.toList →
    c ∈ segment.name.toList ∧ (camelCase = true → c ≠ '_')

/-- What is found of a segment is known by the name that it spells. -/
theorem standsFor_of_respell? (hProfile : source.profile type = .ok profile)
    (hFound : profile.respell? camelCase segment = some found) :
    profile.StandsFor camelCase segment found := by
  obtain ⟨name, hName, rfl⟩ := Option.map_eq_some_iff.mp hFound
  -- only the letters of a name are found in another case
  have hUpper := (upper_of_findName? hProfile hName).1
  have hMarks : ∀ c, Text.IsMark c → c ∈ name.toList →
      c ∈ segment.name.toList ∧ (camelCase = true → c ≠ '_') := by
    intro c hMark hMem
    exact mem_of_mem_lookupName ((Text.mem_iff_of_upper_eq hMark hUpper).mp hMem)
  -- the name has no bracket, so that it is read off the segment again
  have hBracket : '[' ∉ name.toList := by
    intro hMem
    exact segment.bracket_notMem_name (hMarks '[' (by decide) hMem).1
  have hSame : (Segment.ofNameIndex name segment.index?).name = name :=
    Segment.name_ofNameIndex hBracket
  exact
    { looked := by rw [hSame]; exact hName
      itself := by rw [hSame]; exact (findName?_congr hUpper).trans hName
      index_eq := Segment.index?_ofNameIndex hBracket
      made := by rw [hSame]
      marks := by rw [hSame]; exact hMarks }

/-- A segment that another one stands for stands for itself. -/
theorem StandsFor.respell?_self (h : profile.StandsFor camelCase segment found) {other : Bool}
    (hPlain : other = true → '_' ∉ found.name.toList) :
    profile.respell? other found = some found := by
  unfold respell?
  rw [lookupName_eq hPlain, h.itself, h.index_eq]
  exact congrArg some h.made.symm

theorem StandsFor.isIndexed_eq (h : profile.StandsFor camelCase segment found) :
    found.isIndexed = segment.isIndexed := by
  unfold Segment.isIndexed
  rw [h.index_eq]

/-- Where underscores are ignored, no name that is found has one. -/
theorem StandsFor.underscore_notMem (h : profile.StandsFor true segment found) :
    '_' ∉ found.name.toList := by
  intro hMem
  exact (h.marks '_' (by decide) hMem).2 rfl rfl

/-- A segment without a dot stands for one without. -/
theorem StandsFor.dot_notMem (h : profile.StandsFor camelCase segment found)
    (hDot : '.' ∉ segment.text.toList) : '.' ∉ found.text.toList := by
  have hName : '.' ∉ found.name.toList := by
    intro hMem
    exact hDot (Segment.mem_text_of_mem_name (h.marks '.' (by decide) hMem).1)
  -- the text is made of the name and the index, and neither has a dot
  rw [h.made]
  cases hIndex : segment.index? with
  | none => exact hName
  | some index =>
    have hInside : '.' ∉ index.toList := fun hMem =>
      hDot (Segment.mem_text_of_mem_index hIndex hMem)
    rw [Segment.toList_ofNameIndex_some]
    simp [hName, hInside]

end Profile

/-! ## Searches -/

namespace Source

/-- A search that finds a name for each segment, every one but the last leading on. -/
inductive Respells (source : Source V) (camelCase : Bool) :
    Profile V → Segment → List Segment → Segment → List Segment → Prop where
  | last {profile : Profile V} {segment found : Segment}
      (hFound : profile.respell? camelCase segment = some found) :
      Respells source camelCase profile segment [] found []
  | deeper {profile child : Profile V} {segment next found nextFound : Segment}
      {rest others : List Segment} (hFound : profile.respell? camelCase segment = some found)
      (hStep : source.step profile found = .ok child)
      (hBelow : Respells source camelCase child next rest nextFound others) :
      Respells source camelCase profile segment (next :: rest) found (nextFound :: others)

/-- A search that comes to a segment where nothing is found. -/
inductive Loses (source : Source V) (camelCase : Bool) :
    Profile V → Segment → List Segment → Prop where
  /-- The segment spells no name. -/
  | unmatched {profile : Profile V} {segment : Segment} {rest : List Segment}
      (hNone : profile.findName? (Profile.lookupName camelCase segment.name) = none) :
      Loses source camelCase profile segment rest
  /-- More segments follow, and the name that this one spells cannot be read. -/
  | unread {profile : Profile V} {segment next : Segment} {rest : List Segment} {name : String}
      (hName : profile.findName? (Profile.lookupName camelCase segment.name) = some name)
      (hUnread : profile.has .getter name = false) :
      Loses source camelCase profile segment (next :: rest)
  /-- The segment leads on, and a later one is lost. -/
  | deeper {profile child : Profile V} {segment next found : Segment} {rest : List Segment}
      (hFound : profile.respell? camelCase segment = some found)
      (hStep : source.step profile found = .ok child)
      (hBelow : Loses source camelCase child next rest) :
      Loses source camelCase profile segment (next :: rest)

/-- A step leads to the profile of some type. -/
theorem profile_of_step (hStep : source.step profile segment = .ok child) :
    ∃ type, source.profile type = .ok child := by
  obtain ⟨property, -, hChild⟩ := step_ok hStep
  exact ⟨_, hChild⟩

end Source

namespace Profile

/-- A segment that leads on can be read. -/
theorem has_of_step (hStep : source.step profile segment = .ok child) :
    profile.has .getter segment.name = true := by
  obtain ⟨property, hFound, -⟩ := Source.step_ok hStep
  have hRead : profile.property .getter segment.name = .ok property :=
    readProperty_eq_ok_iff.mpr hFound
  exact has_of_property_eq_ok hRead

/-- The search for a single segment is the name that it spells. -/
theorem eval_findAlong_nil :
    (profile.findAlong camelCase segment []).eval source =
      -- a single segment is not read, so nothing can go wrong with it
      .ok ((profile.respell? camelCase segment).map ([·])) := by
  unfold findAlong respell?
  cases profile.findName? (lookupName camelCase segment.name) <;> rfl

/-- One level of a search: the name is looked for, and the search goes on where it leads. -/
theorem eval_findAlong_cons (hProfile : source.profile type = .ok profile) :
    (profile.findAlong camelCase segment (next :: rest)).eval source =
      match profile.respell? camelCase segment with
      | none => .ok none
      | some found =>
        if profile.has .getter found.name then do
          let child ← source.step profile found
          let others? ← (child.findAlong camelCase next rest).eval source
          return others?.map (found :: ·)
        else .ok none := by
  cases hFound : profile.respell? camelCase segment with
  -- no name is spelled
  | none =>
    have hNone : profile.findName? (lookupName camelCase segment.name) = none :=
      Option.map_eq_none_iff.mp hFound
    unfold findAlong
    rw [hNone]
    rfl
  | some found =>
    have h := standsFor_of_respell? hProfile hFound
    rw [findAlong, h.looked]
    dsimp only
    -- the child is that of the name that was found, and it has the same index
    rw [Inquiry.eval_bind, eval_child?, ← h.isIndexed_eq, ← h.made]
    cases hProperty : profile.readProperty found.name with
    | error cause =>
      obtain ⟨-, hMissing⟩ := readProperty_error hProperty
      rw [hMissing]
      rfl
    | ok property =>
      have hRead : profile.property .getter found.name = .ok property := hProperty
      have hReadable : profile.has .getter found.name = true := has_of_property_eq_ok hRead
      rw [hReadable, if_pos rfl]
      unfold Source.step
      rw [hProperty]
      dsimp only [bind, Except.bind]
      cases hChild : source.profile (source.target found.isIndexed property.type) with
      | error cause => rfl
      | ok child =>
        show (child.findAlong camelCase next rest >>= _ : Inquiry V _).eval source = _
        rw [Inquiry.eval_bind]
        show _ = (child.findAlong camelCase next rest).eval source >>= fun others? =>
          .ok (others?.map (found :: ·))
        cases (child.findAlong camelCase next rest).eval source with
        | error cause => rfl
        | ok others? => cases others? <;> rfl

/-- What one level of a search that comes to an end has come to. -/
theorem eval_findAlong_cons_eq_ok_iff (hProfile : source.profile type = .ok profile)
    {spelled? : Option (List Segment)} :
    (profile.findAlong camelCase segment (next :: rest)).eval source = .ok spelled? ↔
      (profile.respell? camelCase segment = none ∧ spelled? = none) ∨
      ∃ found, profile.respell? camelCase segment = some found ∧
        ((profile.has .getter found.name = false ∧ spelled? = none) ∨
          ∃ child others?, source.step profile found = .ok child ∧
            (child.findAlong camelCase next rest).eval source = .ok others? ∧
            spelled? = others?.map (found :: ·)) := by
  rw [eval_findAlong_cons hProfile]
  cases profile.respell? camelCase segment with
  | none =>
    constructor
    · intro h
      exact Or.inl ⟨rfl, (Except.ok.inj h).symm⟩
    · rintro (⟨-, rfl⟩ | ⟨found, hFound, -⟩)
      · rfl
      · cases hFound
  | some found =>
    dsimp only
    constructor
    · -- the search has come to an end, so it is known where
      intro h
      refine Or.inr ⟨found, rfl, ?_⟩
      split at h
      · obtain ⟨child, hStep, hOn⟩ := bind_eq_ok_iff.mp h
        obtain ⟨others?, hOthers, hMade⟩ := bind_eq_ok_iff.mp hOn
        exact Or.inr ⟨child, others?, hStep, hOthers, (Except.ok.inj hMade).symm⟩
      · rename_i hUnread
        exact Or.inl ⟨Bool.eq_false_iff.mpr hUnread, (Except.ok.inj h).symm⟩
    · rintro (⟨hNone, -⟩ | ⟨other, hOther, h⟩)
      · cases hNone
      · cases hOther
        -- a segment that leads on can be read, so the search has gone on as well
        rcases h with ⟨hUnread, rfl⟩ | ⟨child, others?, hStep, hOthers, rfl⟩
        · rw [hUnread]
          rfl
        · rw [if_pos (has_of_step hStep)]
          exact bind_eq_ok_iff.mpr ⟨child, hStep, bind_eq_ok_iff.mpr ⟨others?, hOthers, rfl⟩⟩

/-- **What a search that succeeds has found.** -/
theorem eval_findAlong_eq_some_iff (hProfile : source.profile type = .ok profile)
    {spelled : List Segment} :
    (profile.findAlong camelCase segment rest).eval source = .ok (some spelled) ↔
      ∃ found others, spelled = found :: others ∧
        source.Respells camelCase profile segment rest found others := by
  -- by the segments behind the first; what is found there makes up the rest
  induction rest generalizing type profile segment spelled with
  | nil =>
    rw [eval_findAlong_nil]
    constructor
    · intro h
      obtain ⟨found, hFound, rfl⟩ := Option.map_eq_some_iff.mp (Except.ok.inj h)
      exact ⟨found, [], rfl, .last hFound⟩
    · rintro ⟨found, others, rfl, hRespells⟩
      cases hRespells with
      | last hFound => rw [hFound]; rfl
  | cons next rest ih =>
    rw [eval_findAlong_cons_eq_ok_iff hProfile]
    constructor
    · rintro (⟨-, hNone⟩ | ⟨found, hFound, ⟨-, hNone⟩ | ⟨child, others?, hStep, hOthers, hMade⟩⟩)
      · cases hNone
      · cases hNone
      · -- the rest is found from the child on
        obtain ⟨below, rfl, rfl⟩ := Option.map_eq_some_iff.mp hMade.symm
        obtain ⟨_, hChild⟩ := Source.profile_of_step hStep
        obtain ⟨nextFound, others, rfl, hBelow⟩ := (ih hChild).mp hOthers
        exact ⟨found, _, rfl, .deeper hFound hStep hBelow⟩
    · rintro ⟨found, others, rfl, hRespells⟩
      cases hRespells with
      | deeper hFound hStep hBelow =>
        obtain ⟨_, hChild⟩ := Source.profile_of_step hStep
        have hOthers := (ih hChild).mpr ⟨_, _, rfl, hBelow⟩
        exact Or.inr ⟨found, hFound, Or.inr ⟨_, _, hStep, hOthers, rfl⟩⟩

/-- **What a search that finds nothing has come to.** -/
theorem eval_findAlong_eq_none_iff (hProfile : source.profile type = .ok profile) :
    (profile.findAlong camelCase segment rest).eval source = .ok none ↔
      source.Loses camelCase profile segment rest := by
  -- by the segments behind the first, which may be what is lost
  induction rest generalizing type profile segment with
  | nil =>
    rw [eval_findAlong_nil, Except.ok.injEq, Option.map_eq_none_iff]
    constructor
    · intro h
      exact .unmatched (Option.map_eq_none_iff.mp h)
    · rintro ⟨hNone⟩
      exact Option.map_eq_none_iff.mpr hNone
  | cons next rest ih =>
    rw [eval_findAlong_cons_eq_ok_iff hProfile]
    constructor
    · rintro (⟨hNone, -⟩ | ⟨found, hFound, ⟨hUnread, -⟩ | ⟨child, others?, hStep, hOthers, hMade⟩⟩)
      · exact .unmatched (Option.map_eq_none_iff.mp hNone)
      · exact .unread (standsFor_of_respell? hProfile hFound).looked hUnread
      · obtain rfl := Option.map_eq_none_iff.mp hMade.symm
        obtain ⟨_, hChild⟩ := Source.profile_of_step hStep
        exact .deeper hFound hStep ((ih hChild).mp hOthers)
    · intro h
      cases h with
      | unmatched hNone => exact Or.inl ⟨Option.map_eq_none_iff.mpr hNone, rfl⟩
      | unread hName hUnread =>
        have hFound := respell?_of_findName? hName
        -- the name can be read off the segment that was found
        have hLooked := (standsFor_of_respell? hProfile hFound).looked
        rw [Option.some.inj (hName.symm.trans hLooked)] at hUnread
        exact Or.inr ⟨_, hFound, Or.inl ⟨hUnread, rfl⟩⟩
      | deeper hFound hStep hBelow =>
        obtain ⟨_, hChild⟩ := Source.profile_of_step hStep
        exact Or.inr ⟨_, hFound, Or.inr ⟨_, none, hStep, (ih hChild).mpr hBelow, rfl⟩⟩

/-! ## Searches for paths -/

/-- A search for a path is one for its segments, and these make a path again. -/
theorem eval_findPath (path : Path) :
    (profile.findPath camelCase path).eval source = (do
      match ← (profile.findAlong camelCase path.head path.tail).eval source with
      | some (head :: tail) => .ok (some ⟨head, tail⟩)
      | _ => .ok none) := by
  unfold findPath
  rw [Inquiry.eval_bind]
  cases (profile.findAlong camelCase path.head path.tail).eval source with
  | error cause => rfl
  | ok spelled? =>
    cases spelled? with
    | none => rfl
    | some spelled => cases spelled <;> rfl

/-- A path is found where a name is found for each segment. -/
theorem eval_findPath_eq_some_iff (hProfile : source.profile type = .ok profile)
    {path spelled : Path} :
    (profile.findPath camelCase path).eval source = .ok (some spelled) ↔
      source.Respells camelCase profile path.head path.tail spelled.head spelled.tail := by
  rw [eval_findPath]
  constructor
  · intro h
    -- what was found has a first segment, so it makes a path
    obtain ⟨spelled?, hFound, hMade⟩ := bind_eq_ok_iff.mp h
    split at hMade
    · cases hMade
      obtain ⟨found, others, hSplit, hRespells⟩ := (eval_findAlong_eq_some_iff hProfile).mp hFound
      cases hSplit
      exact hRespells
    · cases hMade
  · intro h
    have hFound := (eval_findAlong_eq_some_iff hProfile).mpr ⟨_, _, rfl, h⟩
    rw [hFound]
    rfl

/-- No path is found where the search comes to a segment without a name. -/
theorem eval_findPath_eq_none_iff (hProfile : source.profile type = .ok profile) {path : Path} :
    (profile.findPath camelCase path).eval source = .ok none ↔
      source.Loses camelCase profile path.head path.tail := by
  rw [eval_findPath, ← eval_findAlong_eq_none_iff hProfile]
  constructor
  · intro h
    obtain ⟨spelled?, hFound, hMade⟩ := bind_eq_ok_iff.mp h
    cases spelled? with
    | none => exact hFound
    | some spelled =>
      -- a search that succeeds finds at least one segment
      obtain ⟨found, others, rfl, -⟩ := (eval_findAlong_eq_some_iff hProfile).mp hFound
      cases hMade
  · intro h
    rw [h]
    rfl

end Profile

/-! ## What is found -/

namespace Source.Respells

/-- What is found finds itself, unless it has underscores that are ignored. -/
theorem stable (h : source.Respells camelCase profile segment rest found others)
    (hProfile : source.profile type = .ok profile) {other : Bool}
    (hPlain : other = true → ∀ s ∈ found :: others, '_' ∉ s.name.toList) :
    source.Respells other profile found others found others := by
  -- by the search: each segment that was found stands for itself
  induction h generalizing type with
  | last hFound =>
    have hStands := Profile.standsFor_of_respell? hProfile hFound
    exact .last (hStands.respell?_self fun hOn => hPlain hOn _ List.mem_cons_self)
  | deeper hFound hStep _ ih =>
    have hStands := Profile.standsFor_of_respell? hProfile hFound
    obtain ⟨_, hChild⟩ := profile_of_step hStep
    refine .deeper (hStands.respell?_self fun hOn => hPlain hOn _ List.mem_cons_self) hStep
      (ih hChild fun hOn => ?_)
    exact (List.forall_mem_cons.mp (hPlain hOn)).2

/-- Indexes stay as they are, segment by segment. -/
theorem map_index?_eq (h : source.Respells camelCase profile segment rest found others)
    (hProfile : source.profile type = .ok profile) :
    (found :: others).map Segment.index? = (segment :: rest).map Segment.index? := by
  induction h generalizing type with
  | last hFound =>
    have hStands := Profile.standsFor_of_respell? hProfile hFound
    rw [List.map_cons, hStands.index_eq]
    rfl
  | deeper hFound hStep _ ih =>
    have hStands := Profile.standsFor_of_respell? hProfile hFound
    obtain ⟨_, hChild⟩ := profile_of_step hStep
    rw [List.map_cons, hStands.index_eq, ih hChild]
    rfl

/-- Where underscores are ignored, no name on the way has one. -/
theorem underscore_notMem (h : source.Respells true profile segment rest found others)
    (hProfile : source.profile type = .ok profile) :
    ∀ s ∈ found :: others, '_' ∉ s.name.toList := by
  induction h generalizing type with
  | last hFound =>
    simpa using (Profile.standsFor_of_respell? hProfile hFound).underscore_notMem
  | deeper hFound hStep _ ih =>
    obtain ⟨_, hChild⟩ := profile_of_step hStep
    exact List.forall_mem_cons.mpr
      ⟨(Profile.standsFor_of_respell? hProfile hFound).underscore_notMem, ih hChild⟩

/-- Without dots in the segments, there are none in what is found. -/
theorem dot_notMem (h : source.Respells camelCase profile segment rest found others)
    (hProfile : source.profile type = .ok profile)
    (hCut : ∀ s ∈ segment :: rest, '.' ∉ s.text.toList) :
    ∀ s ∈ found :: others, '.' ∉ s.text.toList := by
  induction h generalizing type with
  | last hFound =>
    simpa using (Profile.standsFor_of_respell? hProfile hFound).dot_notMem
      (hCut _ List.mem_cons_self)
  | deeper hFound hStep _ ih =>
    obtain ⟨hHere, hRest⟩ := List.forall_mem_cons.mp hCut
    obtain ⟨_, hChild⟩ := profile_of_step hStep
    exact List.forall_mem_cons.mpr
      ⟨(Profile.standsFor_of_respell? hProfile hFound).dot_notMem hHere, ih hChild hRest⟩

/-- What is found can be used in one of the two directions. -/
theorem exists_property (h : source.Respells camelCase profile segment rest found others)
    (hProfile : source.profile type = .ok profile) :
    ∃ direction property, source.propertyAlong direction profile found others = .ok property := by
  induction h generalizing type with
  | @last profile _ found hFound =>
    -- the last name has an accessor, whichever it is
    have hSelf := (Profile.standsFor_of_respell? hProfile hFound).itself
    have hUse : ∃ direction, profile.has direction found.name = true := by
      rcases (Profile.upper_of_findName? hProfile hSelf).2 with hReadable | hWritable
      · exact ⟨.getter, hReadable⟩
      · exact ⟨.setter, hWritable⟩
    obtain ⟨direction, hHas⟩ := hUse
    refine ⟨direction, ?_⟩
    rw [Profile.has_eq_isOk] at hHas
    unfold propertyAlong
    cases hProperty : profile.property direction found.name with
    | ok property => exact ⟨property, rfl⟩
    | error cause =>
      rw [hProperty] at hHas
      cases hHas
  | deeper _ hStep _ ih =>
    obtain ⟨_, hChild⟩ := profile_of_step hStep
    obtain ⟨direction, property, hProperty⟩ := ih hChild
    exact ⟨direction, property, (propertyAlong_cons hStep).trans hProperty⟩

end Source.Respells

/-! ## The main result -/

namespace Profile

/--
**What a search for a path finds is stable and can be used**, through whatever caches. Its text,
taken for a path, finds itself; so it does where underscores are ignored, if and only if no name in
it has one, as none has that was found in this way. It has as many segments as the path that was
searched for, with an index exactly where that has one, and the same index. Every segment but the
last can be read, and the last one read or written. And a search finds nothing exactly where a
segment spells no name, or one that cannot be read though more segments follow.
-/
theorem canonical_path_stable {c₁ c₂ : Cache V} (h₁ : c₁.Reachable source)
    (h₂ : c₂.Reachable source) (hProfile : source.profile type = .ok profile) (text : String)
    (camelCase : Bool) :
    (∀ found, ((profile.findPath camelCase (.parse text)).run source c₁).1 = .ok (some found) →
      let spelled := Path.parse found.render
      ((profile.findPath false spelled).run source c₂).1 = .ok (some found) ∧
      (((profile.findPath true spelled).run source c₂).1 = .ok (some found) ↔
        ∀ segment ∈ spelled.segments, '_' ∉ segment.name.toList) ∧
      (camelCase = true → ∀ segment ∈ spelled.segments, '_' ∉ segment.name.toList) ∧
      spelled.segments.map Segment.index? = (Path.parse text).segments.map Segment.index? ∧
      (((profile.hasAt .getter spelled).run source c₂).1 = .ok true ∨
        ((profile.hasAt .setter spelled).run source c₂).1 = .ok true)) ∧
    (((profile.findPath camelCase (.parse text)).run source c₁).1 = .ok none ↔
      source.Loses camelCase profile (Path.parse text).head (Path.parse text).tail) := by
  simp only [h₁.run_eq_eval, h₂.run_eq_eval]
  refine ⟨?_, eval_findPath_eq_none_iff hProfile⟩
  intro found hFound
  rw [eval_findPath_eq_some_iff hProfile] at hFound
  -- no segment of what was found has a dot, so its text spells it
  have hSpelled : Path.parse found.render = found :=
    Path.parse_render (hFound.dot_notMem hProfile (Path.isCut_parse text))
  rw [hSpelled]
  refine ⟨?_, ⟨?_, ?_⟩, ?_, hFound.map_index?_eq hProfile, ?_⟩
  · -- what was found finds itself
    exact (eval_findPath_eq_some_iff hProfile).mpr (hFound.stable hProfile nofun)
  · -- ignoring underscores, it does so only where there are none
    intro hAgain
    exact ((eval_findPath_eq_some_iff hProfile).mp hAgain).underscore_notMem hProfile
  · -- and it does so wherever there are none
    intro hPlain
    exact (eval_findPath_eq_some_iff hProfile).mpr (hFound.stable hProfile fun _ => hPlain)
  · -- there are none if they were ignored in the first place
    rintro rfl
    exact hFound.underscore_notMem hProfile
  · -- what was found can be used
    obtain ⟨direction, property, hProperty⟩ := hFound.exists_property hProfile
    have hHas : (profile.hasAt direction found).eval source = .ok true :=
      eval_hasAt_eq_true_iff.mpr ⟨property, hProperty⟩
    cases direction with
    | getter => exact Or.inl hHas
    | setter => exact Or.inr hHas

/-- However the name of an order's customer is spelled, it finds the one path, whose index is as it
was written; a nickname is found nowhere. -/
theorem canonical_path_stable_order :
    let fresh : Cache Value := .create .standard
    (∃ found, ((Sample.orderProfile.findPath true (.parse "CUS_TOMER[key_1].NAME")).run Sample.shop
        fresh).1 = .ok (some found) ∧ found.render = "customer[key_1].name" ∧
      ((Sample.orderProfile.findPath false (.parse found.render)).run Sample.shop fresh).1 =
        .ok (some found) ∧
      ((Sample.orderProfile.findPath true (.parse found.render)).run Sample.shop fresh).1 =
        .ok (some found)) ∧
    Sample.shop.Loses true Sample.orderProfile (Path.parse "customer.nick").head
      (Path.parse "customer.nick").tail := by
  intro fresh
  have hCache : fresh.Reachable Sample.shop := .create _
  constructor
  · -- the customer
    have hFound : ((Sample.orderProfile.findPath true (.parse "CUS_TOMER[key_1].NAME")).run
        Sample.shop fresh).1 = .ok (some ⟨⟨"customer[key_1]"⟩, [⟨"name"⟩]⟩) :=
      (hCache.run_eq_eval _).trans (by cbv)
    obtain ⟨hPlain, hIgnoring, hNone, -⟩ :=
      (canonical_path_stable hCache hCache Sample.profile_order _ _).1 _ hFound
    exact ⟨_, hFound, by cbv, hPlain, hIgnoring.mpr (hNone rfl)⟩
  · -- the nickname
    have hLost : ((Sample.orderProfile.findPath true (.parse "customer.nick")).run Sample.shop
        fresh).1 = .ok none := (hCache.run_eq_eval _).trans (by cbv)
    exact (canonical_path_stable hCache hCache Sample.profile_order _ _).2.mp hLost

end Profile

namespace Sample

/-- Customers as they are declared, with an underscore in the name of their one field. -/
def customers : Source Value :=
  Catalog.toSource ⟨[Stock.customer.describe (Stock.customer.initial [])]⟩

/-- The profile of customers. -/
def customerProfile : Profile Value := profileOf customers Stock.customer.type

theorem profile_customer : customers.profile Stock.customer.type = .ok customerProfile := by
  have hBuilt : (customers.profile Stock.customer.type).isOk = true := by cbv
  exact profile_eq_profileOf hBuilt

end Sample

namespace Profile

/-- **What is found need not find itself where underscores are ignored.** The name of a customer has
one, so that nothing spells it then, not even the name itself. -/
theorem found_path_not_found_ignoring_underscores :
    ¬∀ (source : Source Value) (type : TypeName) (profile : Profile Value) (text : String)
        (camelCase : Bool) (found : Path),
      source.profile type = .ok profile →
      ((profile.findPath camelCase (.parse text)).run source (.create .standard)).1 =
        .ok (some found) →
      ∀ other, ((profile.findPath other (.parse found.render)).run source (.create .standard)).1 =
        .ok (some found) := by
  intro hClaim
  have hCache : (Cache.create .standard : Cache Value).Reachable Sample.customers := .create _
  have hFound : ((Sample.customerProfile.findPath false (.parse "USER_NAME")).run Sample.customers
      (.create .standard)).1 = .ok (some ⟨⟨"user_name"⟩, []⟩) :=
    (hCache.run_eq_eval _).trans (by cbv)
  -- what is looked for is the name without its underscore, and that is no name
  have hNone : ((Sample.customerProfile.findPath true
      (.parse (⟨⟨"user_name"⟩, []⟩ : Path).render)).run Sample.customers (.create .standard)).1 =
        .ok none := (hCache.run_eq_eval _).trans (by cbv)
  have hAgain := hClaim Sample.customers Stock.customer.type Sample.customerProfile "USER_NAME" false
    _ Sample.profile_customer hFound true
  rw [hNone] at hAgain
  cases hAgain

end Profile

end Introspect
