import Introspect.Cache

/-!
# What a cache holds

A slot serves one type for good: the type that it was opened for. A cache *mirrors* a source when
every entry in a slot is a build of the type that the slot was opened for. Nothing that a cache does
breaks that, and it is all that a request needs to answer with a build of its type.

Main results: `Mirrors.build`, `Mirrors.fetch` and `Mirrors.resolve`. The answer is the one that the
source gives, and the cache still mirrors the source.
-/

namespace Introspect.Cache

variable {V : Type} {source : Source V} {owners : List TypeName} {cache : Cache V}

/-- The slots of a cache belong to the listed types, and hold nothing but builds of these. -/
structure Mirrors (source : Source V) (owners : List TypeName) (cache : Cache V) : Prop where
  length_eq : cache.slots.length = owners.length
  owned : ∀ {type slot}, cache.slot? type = some slot → owners[slot]? = some type
  built : ∀ {type slot entry}, owners[slot]? = some type → cache.content? slot = some entry →
    source.profile type = .ok entry.profile

/-! ## Steps that leave the slots alone -/

/-- Slots may be lost from sight, and nothing else about a cache matters. -/
theorem Mirrors.frame {after : Cache V} (h : Mirrors source owners cache)
    (hSlots : after.slots = cache.slots)
    (hTable : ∀ type slot, after.slot? type = some slot → cache.slot? type = some slot) :
    Mirrors source owners after := by
  refine ⟨by rw [hSlots, h.length_eq], fun hSlot => h.owned (hTable _ _ hSlot), ?_⟩
  intro type slot entry hOwner hContent
  -- the content is that of a slot before, whether or not the slot is still found
  refine h.built hOwner ?_
  rw [content?, ← hSlots]
  exact hContent

theorem Mirrors.report (h : Mirrors source owners cache) (events : List Event) :
    Mirrors source owners (cache.report events) :=
  h.frame rfl fun _ _ hSlot => hSlot

/-- A switch loses slots from sight at most. -/
theorem Mirrors.setEnabled (h : Mirrors source owners cache) (enabled : Bool) :
    Mirrors source owners (cache.setEnabled enabled) := by
  cases enabled with
  | true => exact h.frame rfl fun _ _ hSlot => hSlot
  | false =>
    refine h.frame rfl fun type slot hSlot => ?_
    -- nothing is found in a cache that is off
    have : (none : Option Nat) = some slot := hSlot
    cases this

theorem Mirrors.arm (h : Mirrors source owners cache) (interruption? : Option Interruption) :
    Mirrors source owners { cache with interruption? } :=
  h.frame rfl fun _ _ hSlot => hSlot

/-- Whatever comes with a consultation, the cache mirrors the source after it. -/
theorem Mirrors.consulted (h : Mirrors source owners cache) :
    Mirrors source owners cache.consulted := by
  -- the interruptions that come here switch the cache off, or off and on again
  unfold Cache.consulted
  split
  · exact h
  · exact (h.arm none).setEnabled false
  · exact ((h.arm none).setEnabled false).setEnabled true

/-! ## Opening and filling slots -/

/-- A new cache has no slots, and so nothing in them. -/
theorem mirrors_create (settings : Settings) :
    Mirrors source [] (Cache.create settings : Cache V) := by
  refine ⟨rfl, ?_, ?_⟩
  · intro type slot hSlot
    have : (none : Option Nat) = some slot := hSlot
    cases this
  · intro type slot entry hOwner
    simp at hOwner

/-- The slot of a type belongs to the type; a new one is added to those that were there. -/
theorem Mirrors.openSlot (h : Mirrors source owners cache) (type : TypeName) :
    ∃ more, Mirrors source (owners ++ more) (cache.openSlot type).2 ∧
      (owners ++ more)[(cache.openSlot type).1]? = some type := by
  unfold Cache.openSlot
  cases hSlot : cache.slot? type with
  | some slot => exact ⟨[], by simpa using h, by simpa using h.owned hSlot⟩
  | none =>
    -- the new slot comes after all others, so it belongs to the owner that is added last
    refine ⟨[type], ⟨by simp [h.length_eq], ?_, ?_⟩, by simp [h.length_eq]⟩
    · intro other slot hFound
      simp only [slot?, List.lookup_append, Option.or_eq_some_iff] at hFound
      rcases hFound with hOld | ⟨-, hNew⟩
      · have hOwned : owners[slot]? = some other := h.owned hOld
        rwa [List.getElem?_append_left (List.getElem?_eq_some_iff.mp hOwned).1]
      · by_cases hSame : other = type
        · subst hSame
          rw [List.lookup_cons_self] at hNew
          cases hNew
          simp [h.length_eq]
        · simp [List.lookup_cons, beq_eq_false_iff_ne.mpr hSame] at hNew
    · intro other slot entry hOwner hContent
      -- a build can only be in a slot that was there before
      rcases Nat.lt_or_ge slot owners.length with hOld | hNew
      · rw [List.getElem?_append_left hOld] at hOwner
        refine h.built hOwner ?_
        rw [content?, List.getElem?_append_left (by rw [h.length_eq]; exact hOld)] at hContent
        exact hContent
      · -- the new slot is empty
        rw [content?, List.getElem?_append_right (by rw [h.length_eq]; exact hNew)] at hContent
        cases hIndex : slot - cache.slots.length with
        | zero => simp [hIndex] at hContent
        | succ index => simp [hIndex] at hContent

/-- What a slot holds after it was filled is a build of its type, whoever filled it. -/
theorem Mirrors.fill (h : Mirrors source owners cache) {type : TypeName} {slot : Nat}
    {entry : Entry V} (hOwner : owners[slot]? = some type)
    (hEntry : source.profile type = .ok entry.profile) :
    Mirrors source owners (cache.fill slot entry).2 ∧
      source.profile type = .ok (cache.fill slot entry).1.profile := by
  unfold Cache.fill
  cases hHeld : cache.content? slot with
  | some held => exact ⟨h, h.built hOwner hHeld⟩
  | none =>
    refine ⟨⟨by simp [h.length_eq], h.owned, ?_⟩, hEntry⟩
    intro other place content hOther hContent
    -- the entry is in one slot, and that slot belongs to the type of the entry
    simp only [content?, List.getElem?_set] at hContent
    split at hContent
    · rename_i hPlace
      subst hPlace
      rw [hOwner] at hOther
      cases hOther
      split at hContent
      · cases hContent
        exact hEntry
      · cases hContent
    · exact h.built hOther hContent

/-! ## Requests -/

/-- A build answers as the source does, and touches no slot. -/
theorem Mirrors.build (h : Mirrors source owners cache) (type : TypeName) :
    Mirrors source owners (cache.build source type).2 ∧
      (cache.build source type).1.map Entry.profile = source.profile type := by
  -- a build touches no slot, not even where an interruption comes with it
  have hBegun : Mirrors source owners { cache with builds := cache.builds + 1 } :=
    h.frame rfl fun _ _ hSlot => hSlot
  have hNoticed := hBegun.consulted.report (source.buildNotices type)
  unfold Cache.build
  cases hProfile : source.profile type with
  | ok profile => exact ⟨hNoticed.report _, rfl⟩
  | error cause => exact ⟨hNoticed.report _, rfl⟩

/-- What is fetched for a slot answers as the source does for the owner of the slot. -/
theorem Mirrors.fetch (h : Mirrors source owners cache) {type : TypeName} {slot : Nat}
    (hOwner : owners[slot]? = some type) :
    Mirrors source owners (cache.fetch source type slot).2 ∧
      (cache.fetch source type slot).1.map Entry.profile = source.profile type := by
  unfold Cache.fetch
  cases hHeld : cache.content? slot with
  | some held =>
    -- what is held was built for the owner of the slot
    exact ⟨h.report _, (h.built hOwner hHeld).symm⟩
  | none =>
    obtain ⟨hAfter, hAnswer⟩ := h.build type
    rcases hBuild : cache.build source type with ⟨result, after⟩
    rw [hBuild] at hAfter hAnswer
    cases result with
    | error cause => exact ⟨hAfter, hAnswer⟩
    | ok entry =>
      obtain ⟨hFilled, hProfile⟩ := hAfter.fill hOwner hAnswer.symm
      exact ⟨hFilled, hProfile.symm⟩

/-- **A request answers with a build of its type**, whatever the cache held before and however often
the request had to start over. -/
theorem Mirrors.resolve (h : Mirrors source owners cache) (type : TypeName) :
    ∃ owners', Mirrors source owners' (cache.resolve source type).2 ∧
      (cache.resolve source type).1.map Entry.profile = source.profile type := by
  -- a request starts over only when fewer interruptions are due
  induction hDue : cache.dueInterruptions using Nat.strongRecOn generalizing cache owners with
  | ind due ih =>
    rw [Cache.resolve]
    split
    · -- the cache is on: a slot for the type is found or added
      obtain ⟨more, hOpened, hOwner⟩ := h.openSlot type
      rcases hOpen : cache.openSlot type with ⟨slot, opened⟩
      rw [hOpen] at hOpened hOwner
      obtain ⟨hAfter, hAnswer⟩ := hOpened.fetch hOwner
      rcases hFetch : opened.fetch source type slot with ⟨result, after⟩
      rw [hFetch] at hAfter hAnswer
      simp only [hFetch]
      cases result with
      | error cause => exact ⟨_, hAfter, hAnswer⟩
      | ok entry =>
        dsimp only
        split
        · exact ⟨_, hAfter, hAnswer⟩
        · -- the slot was taken away while it was filled
          have hAgain := hAfter.report [.builtAcrossReset type]
          split
          · rename_i hFewer
            exact ih _ (hDue ▸ hFewer) hAgain rfl
          · exact ⟨_, hAgain, hAnswer⟩
    · -- a cache that is off builds every time
      exact ⟨owners, h.build type⟩

end Introspect.Cache
