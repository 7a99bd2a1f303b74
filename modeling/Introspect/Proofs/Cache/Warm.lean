import Introspect.Proofs.Cache.Entries

/-!
# Inquiries through a warm cache

An inquiry that has been answered while a cache is on leaves an entry for every profile that it has
asked for. As long as these entries are there, the same inquiry finds them all: it gives the same
answer and begins no build.

Main results:

* `tidy_run`: an inquiry leaves a tidy cache tidy, and takes no entry away.
* `run_warm`: what has been answered is answered again without a build.
-/

namespace Introspect.Inquiry

variable {V α : Type} {source : Source V} {cache warm : Cache V}

/-- What is asked leaves the cache tidy and keeps all entries. -/
theorem tidy_run (h : cache.Tidy) (inquiry : Inquiry V α) :
    (inquiry.run source cache).2.Tidy ∧ ∀ {type entry}, cache.kept? type = some entry →
      (inquiry.run source cache).2.kept? type = some entry := by
  -- along the inquiry: each request keeps the entries that there are
  induction inquiry generalizing cache with
  | done answer => exact ⟨h, id⟩
  | fail cause => exact ⟨h, id⟩
  | load type next ih =>
    obtain ⟨hTidy, -, hServes⟩ := h.resolve source type
    rw [run]
    rcases hResolve : cache.resolve source type with ⟨result, after⟩
    rw [hResolve] at hTidy hServes
    cases result with
    | error cause => exact ⟨hTidy, hServes.keeps⟩
    | ok entry =>
      obtain ⟨hLast, hKept⟩ := ih entry.profile hTidy
      exact ⟨hLast, fun hEntry => hKept (hServes.keeps hEntry)⟩
  | consult next ih =>
    rw [run, h.consulted]
    exact ih source h
  | note event next ih => exact ih (h.report [event])

/-- **What has been answered is answered again without a build**, through any cache in which the
entries are still there. -/
theorem run_warm (inquiry : Inquiry V α) {answer : α} (h : cache.Tidy) (hWarm : warm.Tidy)
    (hOn : cache.enabled = true) (hAnswer : (inquiry.run source cache).1 = .ok answer)
    (hKept : ∀ {type entry}, (inquiry.run source cache).2.kept? type = some entry →
      warm.kept? type = some entry) :
    (inquiry.run source warm).1 = .ok answer ∧
      (inquiry.run source warm).2.builds = warm.builds := by
  -- both caches are followed through the same steps, the first one answering
  induction inquiry generalizing cache warm with
  | done answer => exact ⟨hAnswer, rfl⟩
  | fail cause => cases hAnswer
  | load type next ih =>
    obtain ⟨hTidy, hEnabled, hServes⟩ := h.resolve source type
    rw [run] at hAnswer hKept
    rcases hResolve : cache.resolve source type with ⟨result, after⟩
    rw [hResolve] at hTidy hEnabled hServes
    simp only [hResolve] at hAnswer hKept
    cases result with
    | error cause => cases hAnswer
    | ok entry =>
      -- the request has left its answer as the entry, and that is found again
      have hEntry : warm.kept? type = some entry :=
        hKept ((tidy_run hTidy (next entry.profile)).2 (hServes.kept?_eq hOn))
      obtain ⟨hSame, hBuilds⟩ := hWarm.resolve_of_entry source hEntry
      obtain ⟨hTidy', -, hServes'⟩ := hWarm.resolve source type
      rw [run]
      rcases hResolve' : warm.resolve source type with ⟨result, later⟩
      rw [hResolve'] at hSame hBuilds hTidy' hServes'
      obtain rfl : result = .ok entry := hSame
      obtain ⟨hAgain, hLast⟩ := ih entry.profile hTidy hTidy' (hEnabled.trans hOn) hAnswer
        fun hLater => hServes'.keeps (hKept hLater)
      exact ⟨hAgain, hLast.trans hBuilds⟩
  | consult next ih =>
    -- whatever is consulted switches nothing in a tidy cache, as nothing interrupts it
    rw [run, h.consulted] at hAnswer hKept
    rw [run, hWarm.consulted]
    exact ih source h hWarm hOn hAnswer hKept
  | note event next ih =>
    exact ih (h.report [event]) (hWarm.report [event]) hOn hAnswer hKept

end Introspect.Inquiry
