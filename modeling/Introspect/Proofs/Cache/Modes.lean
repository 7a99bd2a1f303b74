import Introspect.Inquiry

/-!
# What requests leave alone

A caller chooses the settings of a cache once, and switches it on and off. Requests change neither,
except that a look into the source brings about an interruption that is due: `Continues` says so of a
cache before and after.

Main result: `Inquiry.continues_run`, for whatever is asked through a cache.
-/

namespace Introspect

variable {V α : Type} {source : Source V}

namespace Cache

/-- The settings are what they were; and unless an interruption was due, the cache is still on or
still off, and none is due. -/
structure Continues (before after : Cache V) : Prop where
  settings_eq : after.settings = before.settings
  undisturbed : before.interruption? = none →
    after.interruption? = none ∧ after.enabled = before.enabled

namespace Continues

variable {before middle after : Cache V}

theorem refl (cache : Cache V) : Continues cache cache := ⟨rfl, fun hNone => ⟨hNone, rfl⟩⟩

/-- What changes neither in one step nor in the next does not change in both. -/
theorem trans (h : Continues before middle) (h' : Continues middle after) :
    Continues before after := by
  refine ⟨h'.settings_eq.trans h.settings_eq, fun hNone => ?_⟩
  -- no interruption becomes due in between
  obtain ⟨hMiddle, hSame⟩ := h.undisturbed hNone
  obtain ⟨hAfter, hSame'⟩ := h'.undisturbed hMiddle
  exact ⟨hAfter, hSame'.trans hSame⟩

/-- A report is no setting, and brings about no interruption. -/
theorem report (h : Continues before after) (events : List Event) :
    Continues before (after.report events) :=
  h.trans ⟨rfl, fun hNone => ⟨hNone, rfl⟩⟩

end Continues

/-- A look into the source switches a cache only if an interruption is due. -/
theorem continues_consulted (cache : Cache V) : Continues cache cache.consulted := by
  unfold consulted
  split
  · exact .refl cache
  · -- one is due, so there is nothing to show about switching
    rename_i hDue
    exact ⟨rfl, fun hNone => by simp [hDue] at hNone⟩
  · rename_i hDue
    exact ⟨rfl, fun hNone => by simp [hDue] at hNone⟩

theorem continues_openSlot (cache : Cache V) (type : TypeName) :
    Continues cache (cache.openSlot type).2 := by
  unfold openSlot
  split <;> exact ⟨rfl, fun hNone => ⟨hNone, rfl⟩⟩

theorem continues_fill (cache : Cache V) (slot : Nat) (entry : Entry V) :
    Continues cache (cache.fill slot entry).2 := by
  unfold fill
  split <;> exact ⟨rfl, fun hNone => ⟨hNone, rfl⟩⟩

/-- A build is counted, reported, and looks into the source once. -/
theorem continues_build (cache : Cache V) (type : TypeName) :
    Continues cache (cache.build source type).2 := by
  have hBegun : Continues cache { cache with builds := cache.builds + 1 } :=
    ⟨rfl, fun hNone => ⟨hNone, rfl⟩⟩
  have hNoticed := (hBegun.trans (continues_consulted _)).report (source.buildNotices type)
  unfold build
  cases source.profile type with
  | ok profile => exact hNoticed.report _
  | error cause => exact hNoticed.report _

/-- What a slot holds is reported, or it is built first and put there. -/
theorem continues_fetch (cache : Cache V) (type : TypeName) (slot : Nat) :
    Continues cache (cache.fetch source type slot).2 := by
  unfold fetch
  cases cache.content? slot with
  | some held => exact (Continues.refl cache).report _
  | none =>
    -- the slot is filled only if the build succeeds
    have hBuilt : Continues cache (cache.build source type).2 := continues_build cache type
    rcases hBuild : cache.build source type with ⟨result, after⟩
    rw [hBuild] at hBuilt
    cases result with
    | error cause => exact hBuilt
    | ok entry => exact hBuilt.trans (continues_fill after slot entry)

/-- One attempt at a request: a slot is opened, and what it holds is fetched. -/
theorem continues_of_fetch {cache opened after : Cache V} {type : TypeName} {slot : Nat}
    {result : Except PropertyError (Entry V)} (hOpen : cache.openSlot type = (slot, opened))
    (hFetch : opened.fetch source type slot = (result, after)) : Continues cache after := by
  have hOpened := continues_openSlot cache type
  have hFetched : Continues opened (opened.fetch source type slot).2 :=
    continues_fetch opened type slot
  rw [hOpen] at hOpened
  rw [hFetch] at hFetched
  exact hOpened.trans hFetched

/-- Requests switch nothing, however often they have to start again. -/
theorem continues_resolve (cache : Cache V) (type : TypeName) :
    Continues cache (cache.resolve source type).2 := by
  -- a request makes attempts until one holds, and each of them continues the cache
  fun_induction cache.resolve source type with
  | case1 cache _ slot opened hOpen cause after hFetch => exact continues_of_fetch hOpen hFetch
  | case2 cache _ slot opened hOpen entry after hFetch => exact continues_of_fetch hOpen hFetch
  | case3 cache _ slot opened hOpen entry after hFetch _ again _ ih =>
    exact ((continues_of_fetch hOpen hFetch).report _).trans ih
  | case4 cache _ slot opened hOpen entry after hFetch =>
    exact (continues_of_fetch hOpen hFetch).report _
  | case5 cache => exact continues_build cache type

end Cache

open Cache in
/-- **Whatever is asked through a cache**, its settings stay, and it is switched by interruptions
alone. -/
theorem Inquiry.continues_run (inquiry : Inquiry V α) (cache : Cache V) :
    Continues cache (inquiry.run source cache).2 := by
  induction inquiry generalizing cache with
  | done answer => exact .refl cache
  | fail cause => exact .refl cache
  | load type next ih =>
    -- the profile is requested, and what is asked next goes on from the cache that is left
    have hResolved : Continues cache (cache.resolve source type).2 := continues_resolve cache type
    rw [run]
    rcases hResolve : cache.resolve source type with ⟨result, after⟩
    rw [hResolve] at hResolved
    cases result with
    | ok entry => exact hResolved.trans (ih entry.profile after)
    | error cause => exact hResolved
  | consult next ih => exact (continues_consulted cache).trans (ih source cache.consulted)
  | note event next ih => exact ((Continues.refl cache).report [event]).trans (ih _)

end Introspect
