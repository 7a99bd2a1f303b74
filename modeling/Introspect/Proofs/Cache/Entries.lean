import Introspect.Proofs.Cache.Modes

/-!
# Entries of an uninterrupted cache

In a cache that is not interrupted no two types share a slot: it is *orderly*, even while several
callers use it. With one caller, and its source staying as it is for one request, it is also *tidy*:
nothing is found while the cache is off. In a tidy cache a request has one of three outcomes, and all
that it changes is the entry of its own type and the number of builds.

* `Cache.Orderly` — the invariant of every step of an uninterrupted cache.
* `Cache.Tidy` — the invariant of whole requests to an uninterrupted cache.
* `Cache.Serves` — what a request has answered and changed: a hit, a failed build, or a build.

Main results:

* `Orderly.build`, `Orderly.openSlot` and `Orderly.fill`: what the steps of a request change.
* `Tidy.resolve`: every request to a tidy cache is served, and leaves the cache tidy.
* `Tidy.resolve_of_entry`: an entry is the answer to every request for its type.
* `Tidy.exists_types`: the size of a tidy cache is the number of types that have an entry.
-/

namespace Introspect.Cache

variable {V : Type} {source : Source V} {cache : Cache V} {type : TypeName}

/-- No interruption is due, and each type that is found has a slot of its own. -/
structure Orderly (cache : Cache V) : Prop where
  uninterrupted : cache.interruption? = none
  bounded : ∀ {type slot}, cache.slot? type = some slot → slot < cache.slots.length
  apart : ∀ {type other slot}, cache.slot? type = some slot → cache.slot? other = some slot →
    type = other
  distinct : (cache.table.map Prod.fst).Nodup

/-- And when the cache is off, no type is found. -/
structure Tidy (cache : Cache V) : Prop extends Orderly cache where
  cleared : cache.enabled = false → cache.table = []

/-! ## Steps that open and fill no slot -/

/-- A cache in which nothing is found is orderly. -/
theorem orderly_of_empty (hDue : cache.interruption? = none) (hTable : cache.table = []) :
    cache.Orderly := by
  have hNothing : ∀ type slot, cache.slot? type ≠ some slot := by
    intro type slot hSlot
    rw [slot?, hTable] at hSlot
    cases hSlot
  exact ⟨hDue, fun hSlot => absurd hSlot (hNothing _ _), fun hSlot => absurd hSlot (hNothing _ _),
    by rw [hTable]; exact List.nodup_nil⟩

/-- What is found, and where, depends on the table and the number of slots alone. -/
theorem Orderly.frame {after : Cache V} (h : cache.Orderly)
    (hDue : after.interruption? = cache.interruption?) (hTable : after.table = cache.table)
    (hLength : after.slots.length = cache.slots.length) : after.Orderly := by
  have hSlot : after.slot? = cache.slot? := funext fun type => by rw [slot?, slot?, hTable]
  refine ⟨hDue.trans h.uninterrupted, ?_, ?_, by rw [hTable]; exact h.distinct⟩
  · intro type slot hFound
    rw [hLength]
    exact h.bounded (hSlot ▸ hFound)
  · intro type other slot hFound hFound'
    exact h.apart (hSlot ▸ hFound) (hSlot ▸ hFound')

theorem Orderly.report (h : cache.Orderly) (events : List Event) : (cache.report events).Orderly :=
  h.frame rfl rfl rfl

theorem Orderly.clear (h : cache.Orderly) : cache.clear.Orderly :=
  orderly_of_empty h.uninterrupted rfl

/-- Nothing happens in an orderly cache when it looks into the source, since no interruption is due.
-/
theorem Orderly.consulted (h : cache.Orderly) : cache.consulted = cache := by
  rw [Cache.consulted, h.uninterrupted]

theorem tidy_create (settings : Settings) : (create settings : Cache V).Tidy :=
  ⟨orderly_of_empty rfl rfl, fun _ => rfl⟩

theorem Tidy.report (h : cache.Tidy) (events : List Event) : (cache.report events).Tidy :=
  ⟨h.toOrderly.report events, h.cleared⟩

/-- A tidy cache that is switched off is cleared, and stays tidy. -/
theorem Tidy.setEnabled (h : cache.Tidy) (enabled : Bool) : (cache.setEnabled enabled).Tidy := by
  cases enabled with
  | true => exact ⟨h.toOrderly.frame rfl rfl rfl, fun hOff => by cases hOff⟩
  | false => exact ⟨orderly_of_empty h.uninterrupted rfl, fun _ => rfl⟩

/-- A cache that is off has no entries. -/
theorem Tidy.kept?_of_off (h : cache.Tidy) (hOff : cache.enabled = false) (type : TypeName) :
    cache.kept? type = none := by
  rw [kept?, slot?, h.cleared hOff]
  rfl

/-- An entry is only found while the cache is on. -/
theorem Tidy.enabled_of_kept (h : cache.Tidy) {entry : Entry V}
    (hEntry : cache.kept? type = some entry) : cache.enabled = true := by
  cases hOn : cache.enabled with
  | true => rfl
  | false =>
    rw [h.kept?_of_off hOn] at hEntry
    cases hEntry

/-! ## Opening and filling slots -/

/-- A type that has no slot gets one, and all others stay where they are. -/
theorem slot?_openSlot (cache : Cache V) (type other : TypeName) :
    (cache.openSlot type).2.slot? other =
      if other = type then some (cache.openSlot type).1 else cache.slot? other := by
  unfold openSlot
  -- a slot that is there is the one that is opened
  cases hSlot : cache.slot? type with
  | some slot =>
    by_cases hSame : other = type
    · simp [hSame, hSlot]
    · simp [hSame]
  | none =>
    -- a new slot stands behind the others in the table
    unfold slot? at hSlot ⊢
    rw [List.lookup_append, List.lookup_cons, List.lookup_nil]
    by_cases hSame : other = type
    · simp [hSame, hSlot]
    · simp [hSame, beq_eq_false_iff_ne.mpr hSame]

/-- A slot that is opened has what it held before, and a new one has nothing. -/
theorem content?_openSlot (cache : Cache V) (type : TypeName) (slot : Nat) :
    (cache.openSlot type).2.content? slot = cache.content? slot := by
  unfold openSlot
  cases cache.slot? type with
  | some held => rfl
  | none =>
    unfold content?
    rcases Nat.lt_or_ge slot cache.slots.length with hOld | hNew
    · rw [List.getElem?_append_left hOld]
    · -- past the end there was nothing, and there is nothing now
      rw [List.getElem?_append_right hNew, List.getElem?_eq_none hNew]
      cases hIndex : slot - cache.slots.length with
      | zero => rfl
      | succ index => rfl

/-- A type that had no slot gets the first number that no slot had before; all others keep theirs. -/
theorem Orderly.of_slot?_openSlot (h : cache.Orderly) (hNone : cache.slot? type = none)
    {other : TypeName} {slot : Nat} (hFound : (cache.openSlot type).2.slot? other = some slot) :
    other = type ∧ slot = cache.slots.length ∨
      cache.slot? other = some slot ∧ slot < cache.slots.length := by
  rw [slot?_openSlot] at hFound
  split at hFound
  · rename_i hSame
    have hNew : (cache.openSlot type).1 = cache.slots.length := by rw [Cache.openSlot, hNone]
    rw [hNew] at hFound
    exact Or.inl ⟨hSame, (Option.some.inj hFound).symm⟩
  · exact Or.inr ⟨hFound, h.bounded hFound⟩

/-- Opening a slot leaves a cache orderly. -/
theorem Orderly.openSlot (h : cache.Orderly) (type : TypeName) :
    (cache.openSlot type).2.Orderly := by
  unfold Cache.openSlot
  cases hSlot : cache.slot? type with
  | some slot => exact h
  | none =>
    have hFound : ∀ {other slot}, (cache.openSlot type).2.slot? other = some slot →
        other = type ∧ slot = cache.slots.length ∨
          cache.slot? other = some slot ∧ slot < cache.slots.length :=
      fun hOther => h.of_slot?_openSlot hSlot hOther
    rw [Cache.openSlot, hSlot] at hFound
    refine ⟨h.uninterrupted, ?_, ?_, ?_⟩
    · -- the number of the new slot is the number of slots before
      intro other slot hOther
      rw [List.length_append]
      rcases hFound hOther with ⟨-, rfl⟩ | ⟨-, hBounded⟩
      · exact Nat.lt_succ_self _
      · exact Nat.lt_succ_of_lt hBounded
    · intro first second slot hFirst hSecond
      -- the new slot has a number that no slot had before
      rcases hFound hFirst with ⟨rfl, rfl⟩ | ⟨hOld, hBounded⟩
      · rcases hFound hSecond with ⟨rfl, -⟩ | ⟨-, hBounded⟩
        · rfl
        · exact absurd hBounded (Nat.lt_irrefl _)
      · rcases hFound hSecond with ⟨-, rfl⟩ | ⟨hOld', -⟩
        · exact absurd hBounded (Nat.lt_irrefl _)
        · exact h.apart hOld hOld'
    · -- a type that stood in the table would have had a slot
      rw [List.map_append, List.map_cons, List.map_nil]
      refine List.nodup_append.mpr ⟨h.distinct, by simp, ?_⟩
      intro other hOther again hAgain hSame
      obtain rfl : again = type := List.mem_singleton.mp hAgain
      obtain ⟨found, hMember, hName⟩ := List.mem_map.mp hOther
      have hNone := List.lookup_eq_none_iff.mp hSlot found hMember
      simp [hName, hSame] at hNone

theorem enabled_openSlot (cache : Cache V) (type : TypeName) :
    (cache.openSlot type).2.enabled = cache.enabled := by
  unfold Cache.openSlot
  split <;> rfl

/-- Opening a slot leaves a cache tidy that is on. -/
theorem Tidy.openSlot (h : cache.Tidy) (type : TypeName) (hOn : cache.enabled = true) :
    (cache.openSlot type).2.Tidy := by
  refine ⟨h.toOrderly.openSlot type, fun hOff => ?_⟩
  rw [enabled_openSlot, hOn] at hOff
  cases hOff

/-- Filling a slot leaves everything in its place. -/
theorem Orderly.fill (h : cache.Orderly) (slot : Nat) (entry : Entry V) :
    (cache.fill slot entry).2.Orderly := by
  unfold Cache.fill
  cases cache.content? slot with
  | some held => exact h
  | none => exact h.frame rfl rfl List.length_set

/-- Filling a slot leaves a cache tidy. -/
theorem Tidy.fill (h : cache.Tidy) (slot : Nat) (entry : Entry V) :
    (cache.fill slot entry).2.Tidy := by
  refine ⟨h.toOrderly.fill slot entry, ?_⟩
  unfold Cache.fill
  cases cache.content? slot with
  | some held => exact h.cleared
  | none => exact h.cleared

theorem fill_of_empty {slot : Nat} (hEmpty : cache.content? slot = none) (entry : Entry V) :
    cache.fill slot entry = (entry, { cache with slots := cache.slots.set slot (some entry) }) := by
  rw [Cache.fill, hEmpty]

/-- An empty slot that is filled holds the entry, and no other slot changes. -/
theorem content?_fill {slot : Nat} {entry : Entry V} (hSlot : slot < cache.slots.length)
    (hEmpty : cache.content? slot = none) (other : Nat) :
    (cache.fill slot entry).2.content? other =
      if other = slot then some entry else cache.content? other := by
  rw [fill_of_empty hEmpty]
  unfold content?
  rw [List.getElem?_set]
  by_cases hSame : other = slot
  · subst hSame
    simp [hSlot]
  · simp [hSame, Ne.symm hSame]

/-- Filling the empty slot of a type makes its entry, and no other. -/
theorem Orderly.kept?_fill (h : cache.Orderly) {slot : Nat} {entry : Entry V}
    (hSlot : cache.slot? type = some slot) (hEmpty : cache.content? slot = none)
    (other : TypeName) :
    (cache.fill slot entry).2.kept? other =
      if other = type then some entry else cache.kept? other := by
  have hContent : ∀ place, (cache.fill slot entry).2.content? place =
      if place = slot then some entry else cache.content? place :=
    content?_fill (h.bounded hSlot) hEmpty
  have hSlots : (cache.fill slot entry).2.slot? other = cache.slot? other := by
    rw [fill_of_empty hEmpty]
    rfl
  rw [kept?, hSlots]
  by_cases hSame : other = type
  · subst hSame
    rw [hSlot, if_pos rfl, Option.bind_some, hContent, if_pos rfl]
  · rw [if_neg hSame, kept?]
    cases hOther : cache.slot? other with
    | none => rfl
    | some place =>
      -- another type has another slot
      have hPlace : place ≠ slot := fun hShared => hSame (h.apart hOther (hShared ▸ hSlot))
      rw [Option.bind_some, hContent, if_neg hPlace, Option.bind_some]

/-! ## Requests -/

/-- What a request to a tidy cache has answered, and what it has changed besides the journal and the
slots that it has opened: nothing where there was an entry; otherwise one build was begun, and if it
succeeded while the cache was on, its profile is the entry of the type. -/
inductive Serves (source : Source V) (type : TypeName) (cache after : Cache V) :
    Except PropertyError (Entry V) → Prop where
  | hit {entry : Entry V} (held : cache.kept? type = some entry)
      (entries : ∀ other, after.kept? other = cache.kept? other)
      (builds : after.builds = cache.builds) : Serves source type cache after (.ok entry)
  | failed {cause : PropertyError} (missed : cache.kept? type = none)
      (fails : source.profile type = .error cause)
      (entries : ∀ other, after.kept? other = cache.kept? other)
      (builds : after.builds = cache.builds + 1) : Serves source type cache after (.error cause)
  | built {profile : Profile V} (missed : cache.kept? type = none)
      (succeeds : source.profile type = .ok profile)
      (entries : ∀ other, after.kept? other =
        if cache.enabled = true ∧ other = type then some ⟨cache.builds + 1, profile⟩
        else cache.kept? other)
      (builds : after.builds = cache.builds + 1) :
      Serves source type cache after (.ok ⟨cache.builds + 1, profile⟩)

/-- What a build changes in a cache that is not interrupted. -/
structure Begins (cache after : Cache V) : Prop where
  orderly : after.Orderly
  enabled : after.enabled = cache.enabled
  slots : after.slots = cache.slots
  table : after.table = cache.table
  builds : after.builds = cache.builds + 1

/-- A build is counted, and nothing else changes but the journal. -/
theorem Orderly.build (h : cache.Orderly) (source : Source V) (type : TypeName) :
    (cache.build source type).1 =
        (source.profile type).map (fun profile => ⟨cache.builds + 1, profile⟩) ∧
      Begins cache (cache.build source type).2 := by
  -- the count is no part of what is found
  have hBegun : Orderly { cache with builds := cache.builds + 1 } := h.frame rfl rfl rfl
  have hNoticed := hBegun.report (source.buildNotices type)
  simp only [Cache.build, hBegun.consulted]
  cases source.profile type with
  | ok profile => exact ⟨rfl, hNoticed.report _, rfl, rfl, rfl, rfl⟩
  | error cause => exact ⟨rfl, hNoticed.report _, rfl, rfl, rfl, rfl⟩

/-- What is known of the outcome of a build. -/
theorem Orderly.of_build (h : cache.Orderly) {result : Except PropertyError (Entry V)}
    {after : Cache V} (hBuild : cache.build source type = (result, after)) :
    result = (source.profile type).map (fun profile => ⟨cache.builds + 1, profile⟩) ∧
      Begins cache after := by
  have hOutcome := h.build source type
  rw [hBuild] at hOutcome
  exact hOutcome

/-- A build leaves a tidy cache tidy. -/
theorem Begins.tidy {after : Cache V} (h : Begins cache after) (hTidy : cache.Tidy) :
    after.Tidy := by
  refine ⟨h.orderly, ?_⟩
  rw [h.enabled, h.table]
  exact hTidy.cleared

/-- A cache that begins a build has the entries that it had. -/
theorem Begins.kept?_eq {after : Cache V} (h : Begins cache after) (other : TypeName) :
    after.kept? other = cache.kept? other := by
  unfold kept? slot? content?
  rw [h.table, h.slots]

/-- A type is served from its slot, which is filled if it was empty. -/
theorem Tidy.fetch (h : cache.Tidy) (source : Source V) {slot : Nat}
    (hOn : cache.enabled = true) (hSlot : cache.slot? type = some slot) :
    (cache.fetch source type slot).2.Tidy ∧ (cache.fetch source type slot).2.table = cache.table ∧
      Serves source type cache (cache.fetch source type slot).2
        (cache.fetch source type slot).1 := by
  have hEntry : cache.kept? type = cache.content? slot := by rw [kept?, hSlot]; rfl
  unfold Cache.fetch
  cases hHeld : cache.content? slot with
  | some held =>
    exact ⟨h.report _, rfl, .hit (hEntry.trans hHeld) (fun _ => rfl) rfl⟩
  | none =>
    have hMissed : cache.kept? type = none := hEntry.trans hHeld
    rcases hBuild : cache.build source type with ⟨result, after⟩
    obtain ⟨hAnswer, hBegins⟩ := h.of_build hBuild
    cases hProfile : source.profile type with
    | error cause =>
      rw [hProfile] at hAnswer
      obtain rfl : result = .error cause := hAnswer
      exact ⟨hBegins.tidy h, hBegins.table, .failed hMissed hProfile hBegins.kept?_eq hBegins.builds⟩
    | ok profile =>
      rw [hProfile] at hAnswer
      obtain rfl : result = .ok ⟨cache.builds + 1, profile⟩ := hAnswer
      -- the slot is still empty after the build, and is filled with it
      have hEmpty : after.content? slot = none := by rw [content?, hBegins.slots]; exact hHeld
      have hFound : after.slot? type = some slot := by rw [slot?, hBegins.table]; exact hSlot
      have hFill := fill_of_empty hEmpty (⟨cache.builds + 1, profile⟩ : Entry V)
      have hAnswers : (after.fill slot ⟨cache.builds + 1, profile⟩).1 =
          ⟨cache.builds + 1, profile⟩ := by rw [hFill]
      have hTable : (after.fill slot ⟨cache.builds + 1, profile⟩).2.table = cache.table := by
        rw [hFill, ← hBegins.table]
      have hBuilds : (after.fill slot ⟨cache.builds + 1, profile⟩).2.builds =
          cache.builds + 1 := by rw [hFill, ← hBegins.builds]
      refine ⟨(hBegins.tidy h).fill slot _, hTable, ?_⟩
      show Serves source type cache (after.fill slot _).2 (.ok (after.fill slot _).1)
      rw [hAnswers]
      refine .built hMissed hProfile (fun other => ?_) hBuilds
      rw [hBegins.orderly.kept?_fill hFound hEmpty, hBegins.kept?_eq]
      simp [hOn]

/-- Opening a slot makes no entry and loses none. -/
theorem kept?_openSlot (cache : Cache V) (type other : TypeName) :
    (cache.openSlot type).2.kept? other = cache.kept? other := by
  have hContent : (cache.openSlot type).2.content? = cache.content? :=
    funext (content?_openSlot cache type)
  rw [kept?, kept?, slot?_openSlot, hContent]
  split
  · rename_i hSame
    subst hSame
    unfold openSlot
    cases hSlot : cache.slot? other with
    | some slot => rfl
    | none =>
      -- a new slot is past the end of those that hold something
      rw [Option.bind_some, Option.bind_none, content?, List.getElem?_eq_none (Nat.le_refl _)]
      rfl
  · rfl

theorem builds_openSlot (cache : Cache V) (type : TypeName) :
    (cache.openSlot type).2.builds = cache.builds := by
  unfold openSlot
  split <;> rfl

/-- What is served after a slot was opened is served from the cache before. -/
theorem Serves.frame {opened after : Cache V} {result : Except PropertyError (Entry V)}
    (h : Serves source type opened after result) (hEnabled : opened.enabled = cache.enabled)
    (hBuilds : opened.builds = cache.builds)
    (hEntries : ∀ other, opened.kept? other = cache.kept? other) :
    Serves source type cache after result := by
  cases h with
  | hit held entries builds =>
    exact .hit (hEntries type ▸ held) (fun other => (entries other).trans (hEntries other))
      (builds.trans hBuilds)
  | failed missed fails entries builds =>
    exact .failed (hEntries type ▸ missed) fails
      (fun other => (entries other).trans (hEntries other)) (by rw [builds, hBuilds])
  | built missed succeeds entries builds =>
    rw [hBuilds] at entries builds ⊢
    refine .built (hEntries type ▸ missed) succeeds (fun other => ?_) builds
    rw [entries other, hEnabled, hEntries other]

/-- **Every request to a tidy cache is served**, and the cache stays tidy, and on or off. -/
theorem Tidy.resolve (h : cache.Tidy) (source : Source V) (type : TypeName) :
    (cache.resolve source type).2.Tidy ∧
      (cache.resolve source type).2.enabled = cache.enabled ∧
      Serves source type cache (cache.resolve source type).2 (cache.resolve source type).1 := by
  have hEnabled : (cache.resolve source type).2.enabled = cache.enabled :=
    ((continues_resolve cache type).undisturbed h.uninterrupted).2
  rw [Cache.resolve] at hEnabled ⊢
  by_cases hOn : cache.enabled = true
  · -- the cache is on: a slot is opened, and what it holds is fetched
    rw [if_pos hOn] at hEnabled ⊢
    have hOpened : (cache.openSlot type).2.Tidy := h.openSlot type hOn
    have hKept : (cache.openSlot type).2.enabled = cache.enabled :=
      ((continues_openSlot cache type).undisturbed h.uninterrupted).2
    have hBuilds := builds_openSlot cache type
    have hEntries := kept?_openSlot cache type
    have hSlot : (cache.openSlot type).2.slot? type = some (cache.openSlot type).1 := by
      rw [slot?_openSlot, if_pos rfl]
    rcases hOpen : cache.openSlot type with ⟨slot, opened⟩
    rw [hOpen] at hOpened hKept hBuilds hEntries hSlot
    obtain ⟨hTidy, hTable, hServes⟩ := hOpened.fetch source (hKept.trans hOn) hSlot
    rcases hFetch : opened.fetch source type slot with ⟨result, after⟩
    rw [hFetch] at hTidy hTable hServes
    simp only [hOpen, hFetch] at hEnabled ⊢
    cases result with
    | error cause => exact ⟨hTidy, hEnabled, hServes.frame hKept hBuilds hEntries⟩
    | ok entry =>
      -- nobody has taken the slot away, so the request does not start over
      have hHolds : after.holds type slot = true := by
        rw [holds, slot?, hTable]
        exact beq_iff_eq.mpr hSlot
      simp only [hHolds, if_true] at hEnabled ⊢
      exact ⟨hTidy, hEnabled, hServes.frame hKept hBuilds hEntries⟩
  · -- the cache is off: the build is for this request alone
    rw [if_neg hOn] at hEnabled ⊢
    obtain ⟨hAnswer, hBegins⟩ := h.toOrderly.build source type
    have hOff : cache.enabled = false := Bool.eq_false_iff.mpr hOn
    have hMissed : cache.kept? type = none := h.kept?_of_off hOff type
    refine ⟨hBegins.tidy h, hEnabled, ?_⟩
    rw [hAnswer]
    cases hProfile : source.profile type with
    | error cause => exact .failed hMissed hProfile hBegins.kept?_eq hBegins.builds
    | ok profile =>
      refine .built hMissed hProfile (fun other => ?_) hBegins.builds
      -- what is built while the cache is off is not kept
      rw [if_neg fun hBoth => hOn hBoth.1]
      exact hBegins.kept?_eq other

/-- A request concerns the entry of its own type alone. -/
theorem Serves.kept?_of_ne {after : Cache V} {result : Except PropertyError (Entry V)}
    (h : Serves source type cache after result) {other : TypeName} (hOther : other ≠ type) :
    after.kept? other = cache.kept? other := by
  -- each outcome says what has become of the other entries
  cases h with
  | hit held entries builds => exact entries other
  | failed missed fails entries builds => exact entries other
  | built missed succeeds entries builds => rw [entries other, if_neg fun hBoth => hOther hBoth.2]

/-- An entry stays, whatever is requested. -/
theorem Serves.keeps {after : Cache V} {result : Except PropertyError (Entry V)}
    (h : Serves source type cache after result) {other : TypeName} {entry : Entry V}
    (hEntry : cache.kept? other = some entry) : after.kept? other = some entry := by
  cases h with
  | hit held entries builds => exact (entries other).trans hEntry
  | failed missed fails entries builds => exact (entries other).trans hEntry
  | built missed succeeds entries builds =>
    rw [entries other, if_neg]
    · exact hEntry
    · -- what has an entry is not built again
      rintro ⟨-, rfl⟩
      rw [missed] at hEntry
      cases hEntry

/-- A request that succeeds while the cache is on answers with what is then the entry. -/
theorem Serves.kept?_eq {after : Cache V} {entry : Entry V}
    (h : Serves source type cache after (.ok entry)) (hOn : cache.enabled = true) :
    after.kept? type = some entry := by
  -- a request that fails answers with no entry
  cases h with
  | hit held entries builds => exact (entries type).trans held
  | built missed succeeds entries builds => rw [entries type, if_pos ⟨hOn, rfl⟩]

/-- **A type that has an entry is not built again**: its entry is the answer, and nothing changes. -/
theorem Tidy.resolve_of_entry (h : cache.Tidy) (source : Source V) {entry : Entry V}
    (hEntry : cache.kept? type = some entry) :
    (cache.resolve source type).1 = .ok entry ∧
      (cache.resolve source type).2.builds = cache.builds := by
  obtain ⟨-, -, hServes⟩ := h.resolve source type
  generalize (cache.resolve source type).1 = result at hServes ⊢
  -- a build would have missed the entry
  cases hServes with
  | hit held entries builds =>
    rw [held] at hEntry
    exact ⟨congrArg Except.ok (Option.some.inj hEntry), builds⟩
  | failed missed fails entries builds =>
    rw [missed] at hEntry
    cases hEntry
  | built missed succeeds entries builds =>
    rw [missed] at hEntry
    cases hEntry

/-- A build that fails makes no entry and takes none away. -/
theorem Tidy.kept?_of_failed (h : cache.Tidy) {cause : PropertyError}
    (hFails : source.profile type = .error cause) (other : TypeName) :
    (cache.resolve source type).2.kept? other = cache.kept? other := by
  obtain ⟨-, -, hServes⟩ := h.resolve source type
  generalize (cache.resolve source type).1 = result at hServes
  -- a build that succeeds would contradict the failure
  cases hServes with
  | hit held entries builds => exact entries other
  | failed missed fails entries builds => exact entries other
  | built missed succeeds entries builds =>
    rw [hFails] at succeeds
    cases succeeds

/-! ## Sizes -/

/-- Where every key stands once, what stands there is found. -/
theorem lookup_eq_some_iff_mem {α β : Type} [BEq α] [LawfulBEq α] {pairs : List (α × β)} {key : α}
    {item : β} (hDistinct : (pairs.map Prod.fst).Nodup) :
    pairs.lookup key = some item ↔ (key, item) ∈ pairs := by
  constructor
  · intro hFound
    obtain ⟨before, after, rfl, -⟩ := List.lookup_eq_some_iff.mp hFound
    exact List.mem_append_right _ List.mem_cons_self
  · intro hMember
    obtain ⟨before, after, rfl⟩ := List.append_of_mem hMember
    rw [List.map_append, List.map_cons, List.nodup_append] at hDistinct
    refine List.lookup_eq_some_iff.mpr ⟨before, after, rfl, fun pair hPair => ?_⟩
    -- a pair in front has another key
    have hOther : pair.1 ≠ key :=
      hDistinct.2.2 _ (List.mem_map_of_mem hPair) _ List.mem_cons_self
    exact bne_iff_ne.mpr (Ne.symm hOther)

/-- **The size of a tidy cache is the number of types with an entry.** -/
theorem Tidy.exists_types (h : cache.Tidy) :
    ∃ types : List TypeName, types.Nodup ∧
      (∀ type, type ∈ types ↔ (cache.kept? type).isSome = true) ∧ cache.size = types.length := by
  have hDistinct := h.distinct
  refine ⟨(cache.table.filter fun found => (cache.content? found.2).isSome).map Prod.fst,
    ?_, fun type => ?_, ?_⟩
  · -- a type stands in the table once
    exact hDistinct.sublist ((List.filter_sublist).map Prod.fst)
  · have hFound : ∀ slot, cache.slot? type = some slot ↔ (type, slot) ∈ cache.table :=
      fun slot => lookup_eq_some_iff_mem hDistinct
    -- a slot with content makes an entry, and the other way round
    rw [List.mem_map]
    constructor
    · rintro ⟨⟨owner, slot⟩, hMember, rfl⟩
      obtain ⟨hMember, hFilled⟩ := List.mem_filter.mp hMember
      rw [kept?, (hFound slot).mpr hMember]
      exact hFilled
    · intro hEntry
      obtain ⟨entry, hEntry⟩ := Option.isSome_iff_exists.mp hEntry
      obtain ⟨slot, hSlot, hContent⟩ := Option.bind_eq_some_iff.mp hEntry
      refine ⟨(type, slot), List.mem_filter.mpr ⟨(hFound slot).mp hSlot, ?_⟩, rfl⟩
      rw [hContent]
      rfl
  · -- the size counts the slots with content
    rw [List.length_map, ← List.countP_eq_length_filter]
    rfl

end Introspect.Cache
