import Introspect.Proofs.Cache.Modes
import Introspect.Proofs.Inquiry
import Introspect.Session

/-!
# Sessions with and without caching

A caller cannot tell from its reports whether profiles are kept. Two sessions are *alike* when their
callers keep the same things, and what their caches hold comes from the same source. A question is
reported alike in both and leaves them alike, whatever the two caches have been used for; and a
switch of one cache leaves them alike too.

Main results:

* `Session.Alike.ask` and `Session.Alike.run`: one question, and whole runs.
* `Session.run_eq_run_disabled`: a run against the run without its switches, on a cache that is off
  from the beginning to the end.
-/

namespace Introspect.Session

variable {V : Type} {source : Source V} {cached plain : Session V}

theorem run_cons (session : Session V) (step : Step V) (rest : List (Step V)) :
    session.run source (step :: rest) =
      ((session.step source step).1.toList ++ ((session.step source step).2.run source rest).1,
        ((session.step source step).2.run source rest).2) := rfl

/-! ## Sessions that cannot be told apart -/

/-- The callers of two sessions keep the same, and nothing that their caches hold tells them apart:
both caches mirror the source, under the same settings. -/
structure Alike (source : Source V) (cached plain : Session V) : Prop where
  held_eq : cached.held = plain.held
  settings_eq : cached.cache.settings = plain.cache.settings
  cached_mirrors : ∃ owners, cached.cache.Mirrors source owners
  plain_mirrors : ∃ owners, plain.cache.Mirrors source owners

/-- **A question is reported alike** through two caches, and the sessions are alike after it. -/
theorem Alike.ask (h : Alike source cached plain) (question : Question V) :
    (cached.ask source question).1 = (plain.ask source question).1 ∧
      Alike source (cached.ask source question).2 (plain.ask source question).2 := by
  obtain ⟨owners, hCached⟩ := h.cached_mirrors
  obtain ⟨owners', hPlain⟩ := h.plain_mirrors
  unfold Session.ask
  -- the question is about the same things on both sides, so the same inquiry is behind it
  rw [h.held_eq, h.settings_eq]
  cases question.inquiry? plain.cache.settings plain.held with
  | none => exact ⟨rfl, h⟩
  | some inquiry =>
    -- each cache answers as the source does, and mirrors it afterwards
    obtain ⟨grown, hCachedAfter, hCachedAnswer⟩ := hCached.run inquiry
    obtain ⟨grown', hPlainAfter, hPlainAnswer⟩ := hPlain.run inquiry
    have hReport : Report.ofResult plain.held (inquiry.run source cached.cache).1 =
        Report.ofResult plain.held (inquiry.run source plain.cache).1 := by
      rw [hCachedAnswer, hPlainAnswer]
    refine ⟨hReport, congrArg Report.held hReport, ?_, ⟨grown, hCachedAfter⟩, ⟨grown', hPlainAfter⟩⟩
    exact (inquiry.continues_run cached.cache).settings_eq.trans
      (h.settings_eq.trans (inquiry.continues_run plain.cache).settings_eq.symm)

/-- A switch goes unnoticed. -/
theorem Alike.switched (h : Alike source cached plain) {step : Step V} (hSwitch : step.isSwitch) :
    (cached.step source step).1 = none ∧ Alike source (cached.step source step).2 plain := by
  obtain ⟨owners, hCached⟩ := h.cached_mirrors
  cases step with
  | ask question => cases hSwitch
  | place name object => cases hSwitch
  | switch enabled =>
    refine ⟨rfl, h.held_eq, ?_, ⟨owners, hCached.setEnabled enabled⟩, h.plain_mirrors⟩
    -- switches are no settings
    rw [← h.settings_eq]
    cases enabled <;> rfl
  | arm interruption =>
    exact ⟨rfl, h.held_eq, h.settings_eq, ⟨owners, hCached.arm (some interruption)⟩,
      h.plain_mirrors⟩

/-- Any other step is reported alike, and leaves the sessions alike. -/
theorem Alike.step (h : Alike source cached plain) {step : Step V} (hStep : step.isSwitch = false) :
    (cached.step source step).1 = (plain.step source step).1 ∧
      Alike source (cached.step source step).2 (plain.step source step).2 := by
  cases step with
  | ask question =>
    obtain ⟨hReport, hAfter⟩ := h.ask question
    exact ⟨congrArg some hReport, hAfter⟩
  | place name object =>
    refine ⟨rfl, ?_, h.settings_eq, h.cached_mirrors, h.plain_mirrors⟩
    exact congrArg (·.place name object) h.held_eq
  | switch enabled => cases hStep
  | arm interruption => cases hStep

/-- **Whole runs are reported alike**, though the second leaves out all switches. -/
theorem Alike.run (h : Alike source cached plain) (steps : List (Step V)) :
    (cached.run source steps).1 =
        (plain.run source (steps.filter fun step => !step.isSwitch)).1 ∧
      Alike source (cached.run source steps).2
        (plain.run source (steps.filter fun step => !step.isSwitch)).2 := by
  -- along the steps: a switch is a step of the first session only
  induction steps generalizing cached plain with
  | nil => exact ⟨rfl, h⟩
  | cons step rest ih =>
    cases hSwitch : step.isSwitch with
    | true =>
      obtain ⟨hNone, hAfter⟩ := h.switched hSwitch
      obtain ⟨hReports, hLast⟩ := ih hAfter
      rw [List.filter_cons_of_neg (by simp [hSwitch])]
      refine ⟨?_, hLast⟩
      rw [run_cons, hNone, hReports]
      rfl
    | false =>
      obtain ⟨hReport, hAfter⟩ := h.step hSwitch
      obtain ⟨hReports, hLast⟩ := ih hAfter
      rw [List.filter_cons_of_pos (by simp [hSwitch])]
      refine ⟨?_, hLast⟩
      rw [run_cons, run_cons, hReport, hReports]

/-! ## Caches that stay off -/

/-- Nothing but a switch turns a cache on. -/
theorem continues_step (session : Session V) {step : Step V} (hStep : step.isSwitch = false) :
    session.cache.Continues (session.step source step).2.cache := by
  cases step with
  | ask question =>
    show session.cache.Continues (session.ask source question).2.cache
    unfold ask
    cases question.inquiry? session.cache.settings session.held with
    | none => exact .refl _
    | some inquiry => exact inquiry.continues_run session.cache
  | place name object => exact .refl _
  | switch enabled => cases hStep
  | arm interruption => cases hStep

/-- A run without switches never turns a cache on. -/
theorem continues_run (session : Session V) {steps : List (Step V)}
    (hSteps : ∀ step ∈ steps, step.isSwitch = false) :
    session.cache.Continues (session.run source steps).2.cache := by
  induction steps generalizing session with
  | nil => exact .refl _
  | cons step rest ih =>
    have hFirst : session.cache.Continues (session.step source step).2.cache :=
      session.continues_step (hSteps step List.mem_cons_self)
    exact hFirst.trans (ih _ fun other hOther => hSteps other (List.mem_cons_of_mem step hOther))

/-! ## Caching is transparent -/

/-- **Caching is transparent**: whatever a caller asks, writes and copies, and however it switches
its cache in between, the reports are those of the session without the switches on a cache of the
same settings that is off. That cache is off after any number of the steps; and the settings are
those that both caches were created with. -/
theorem run_eq_run_disabled (source : Source V) (settings : Settings) (held : Holdings V)
    (steps : List (Step V)) :
    let cached : Session V := ⟨.create settings, held⟩
    let plain : Session V := ⟨(Cache.create settings).setEnabled false, held⟩
    let unswitched := steps.filter fun step => !step.isSwitch
    (cached.run source steps).1 = (plain.run source unswitched).1 ∧
      (cached.run source steps).2.held = (plain.run source unswitched).2.held ∧
      (cached.run source steps).2.cache.settings = settings ∧
      (plain.run source unswitched).2.cache.settings = settings ∧
      ∀ count, (plain.run source (unswitched.take count)).2.cache.enabled = false := by
  intro cached plain unswitched
  -- both callers begin with the same things, and nothing in their caches
  have hStart : Alike source cached plain :=
    ⟨rfl, rfl, ⟨[], Cache.mirrors_create settings⟩,
      ⟨[], (Cache.mirrors_create settings).setEnabled false⟩⟩
  obtain ⟨hReports, hEnd⟩ := hStart.run steps
  have hUnswitched : ∀ step ∈ unswitched, step.isSwitch = false := by
    intro step hStep
    simpa using (List.mem_filter.mp hStep).2
  have hSettings : (plain.run source unswitched).2.cache.settings = settings :=
    (plain.continues_run hUnswitched).settings_eq
  refine ⟨hReports, hEnd.held_eq, hEnd.settings_eq.trans hSettings, hSettings, fun count => ?_⟩
  have hTaken : ∀ step ∈ unswitched.take count, step.isSwitch = false :=
    fun step hStep => hUnswitched step (List.mem_of_mem_take hStep)
  exact ((plain.continues_run hTaken).undisturbed rfl).2

end Introspect.Session
