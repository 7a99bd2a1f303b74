import Introspect.Proofs.Interleaving.Sharing

/-!
# What is left when the cache is off

Switching the cache off takes two steps: it is stored that the cache is off, and the table is cleared.
A caller that has found the cache on before the first step may open a slot after the second. It finds
the type under the slot when it is done, so the slot stays, and the entry in it. Nothing else is left:
a slot that is found while the cache is off, with no clearing to come, was opened while it was off; and
what is found after a clearing was built after it.

* `Move.Opens` — a step opens a slot for a type.
* `Machine.Late` — what is found in a cache that is off.
* `Machine.Fresh` — what has been built since the table was cleared.

Main results:

* `Late.take` and `Fresh.take`: what one step keeps of that.
* `late_of_run`: what any run has left when the cache is off.
* `Sound.built_since_clearing`: what is answered from a slot after a clearing.
* `off_keeps_late_slots`: a cache that is off has at most what was put in while it was off, and nothing
  that was built before a clearing is found after it.
* `off_leaves_entry`: a cache that is off may have an entry.
-/

namespace Introspect

variable {V : Type}

/-- The step opens a slot for a type that had none. -/
structure Move.Opens (move : Move V) (type : TypeName) (slot : Nat) : Prop where
  request : move.request = .resolve type
  origin : move.origin = .enter
  missing : move.before.slot? type = none
  found : move.after.slot? type = some slot

namespace Machine

variable {source : Source V} {machine start finish : Machine V} {moves : List (Move V)} {move : Move V}
  {settings : Settings} {requests : List Request}

/-! ## What is found while the cache is off -/

/-- If the cache is off, some caller is about to clear the table, or every slot that is found was opened
while the cache was off. -/
def Late (moves : List (Move V)) (machine : Machine V) : Prop :=
  machine.cache.enabled = false →
    (∃ (index : Nat) (caller : Caller V), machine.callers[index]? = some caller ∧
      caller.phase = .clear) ∨
    ∀ type slot, machine.cache.slot? type = some slot →
      ∃ move ∈ moves, move.Opens type slot ∧ move.before.enabled = false

/-- **One step** of a sound machine keeps that. -/
theorem Late.take (h : Late moves machine) (hSound : machine.Sound)
    (hTakes : Takes source machine move) : Late (moves ++ [move]) (machine.take move) := by
  have hEvolves := hSound.evolves hTakes
  intro hOff
  -- if this step cleared the table, nothing is left to be found
  by_cases hClears : move.origin = .clear
  · -- nothing is found in a table that was cleared
    right
    intro type slot hFound
    have hTable : (machine.take move).cache.table = [] := hEvolves.clears hClears
    rw [Cache.slot?, hTable] at hFound
    cases hFound
  · rcases hEvolves.switches with hSame | ⟨hOrigin, hRequest⟩
    · rcases h (hSame.symm.trans hOff) with ⟨index, caller, hCaller, hPhase⟩ | hLate
      · -- the caller that is to clear the table is not the one that took this step
        refine Or.inl ⟨index, caller, ?_, hPhase⟩
        rw [Takes.callers_of_ne]
        · exact hCaller
        · rintro rfl
          rw [hTakes.caller] at hCaller
          obtain rfl := Option.some.inj hCaller
          exact hClears hPhase
      · -- a slot that is found was found before, or has just been opened
        right
        intro type slot hFound
        rcases hEvolves.opens hFound with hOld | ⟨hRequest, hOrigin, hMissing, -⟩
        · obtain ⟨opening, hOpening, hOpens⟩ := hLate type slot hOld
          exact ⟨opening, List.mem_append_left _ hOpening, hOpens⟩
        · refine ⟨move, by simp, ⟨hRequest, hOrigin, ?_, hFound⟩, ?_⟩
          · rw [hTakes.before]
            exact hMissing
          · rw [hTakes.before]
            exact hSame.symm.trans hOff
    · -- whoever switches the cache off is to clear the table next
      refine Or.inl ⟨move.index, _, hTakes.callers_self, ?_⟩
      have hOff : move.after.enabled = false := hOff
      rw [hOff] at hRequest
      exact hTakes.target_of_switchesOff ⟨hRequest, hOrigin⟩

/-- Whatever callers do, what is left in a cache that is off was put in while it was off. -/
theorem late_of_run (hRun : Run (create (Cache.create settings) requests) moves finish) :
    Late moves finish := by
  -- nothing is found in a cache that was just made
  have hSound := sound_create (V := V) settings requests
  refine (hSound.invariant Late ?_ (fun hSound h hTakes => h.take hSound hTakes) hRun).2
  intro _
  right
  intro type slot hFound
  cases hFound

/-- Where no type is found the table is empty. -/
theorem table_eq_nil {cache : Cache V} (h : ∀ type, cache.slot? type = none) : cache.table = [] := by
  cases hTable : cache.table with
  | nil => rfl
  | cons found rest =>
    have hFirst := h found.1
    rw [Cache.slot?, hTable, List.lookup_cons_self] at hFirst
    cases hFirst

/-! ## What is found after a clearing -/

/-- From some number on, slots were opened after the table was cleared, and `moves` were taken since. -/
structure Fresh (limit : Nat) (moves : List (Move V)) (machine : Machine V) : Prop where
  limit_le : limit ≤ machine.cache.slots.length
  -- no type is found under a slot that was opened before
  beyond : ∀ {type slot}, machine.cache.slot? type = some slot → limit ≤ slot
  -- what is in the others, or about to be, was built for them since
  built : ∀ {slot entry}, limit ≤ slot → machine.cache.content? slot = some entry →
    ∃ move ∈ moves, move.builtSlot? = some slot ∧ move.target = .fill slot entry
  pending : ∀ {index : Nat} {caller : Caller V} {slot : Nat} {entry : Entry V}, limit ≤ slot →
    machine.callers[index]? = some caller → caller.phase = .fill slot entry →
      ∃ move ∈ moves, move.builtSlot? = some slot ∧ move.target = .fill slot entry

/-- When the table has just been cleared, no caller deals with a slot yet to be opened. -/
theorem fresh_of_cleared (hSound : machine.Sound) (hTable : machine.cache.table = []) :
    Fresh machine.cache.slots.length [] machine := by
  refine ⟨Nat.le_refl _, ?_, ?_, ?_⟩
  -- the table is empty, and a slot yet to be opened is empty and in nobody's hands
  · intro type slot hFound
    rw [Cache.slot?, hTable] at hFound
    cases hFound
  · intro slot entry hLimit hHeld
    exact absurd (slot_lt_of_content hHeld) (Nat.not_lt_of_le hLimit)
  · intro index caller slot entry hLimit hCaller hPhase
    have hAdmits := hSound.admits hCaller
    rw [hPhase] at hAdmits
    exact absurd hAdmits.1 (Nat.not_lt_of_le hLimit)

/-- **One step** of a sound machine keeps that. -/
theorem Fresh.take {limit : Nat} (h : Fresh limit moves machine) (hSound : machine.Sound)
    (hTakes : Takes source machine move) : Fresh limit (moves ++ [move]) (machine.take move) := by
  have hEvolves := hSound.evolves hTakes
  have hMember : ∀ {slot entry},
      (∃ move ∈ moves, move.builtSlot? = some slot ∧ move.target = .fill slot entry) →
      ∃ other ∈ moves ++ [move], other.builtSlot? = some slot ∧ other.target = .fill slot entry := by
    rintro slot entry ⟨other, hOther, hBuilt⟩
    exact ⟨other, List.mem_append_left _ hOther, hBuilt⟩
  refine ⟨Nat.le_trans h.limit_le hEvolves.length_le, ?_, ?_, ?_⟩
  · intro type slot hFound
    -- what is found was there before or has just been opened, beyond all slots until then
    rcases hEvolves.opens hFound with hOld | ⟨-, -, -, rfl⟩
    · exact h.beyond hOld
    · exact h.limit_le
  · intro slot entry hLimit hHeld
    cases hBefore : machine.cache.content? slot with
    | some held =>
      have hKept := hEvolves.keeps hBefore
      obtain rfl := Option.some.inj (hKept.symm.trans hHeld)
      exact hMember (h.built hLimit hBefore)
    | none =>
      -- the slot has just been filled by a caller that was about to
      exact hMember (h.pending hLimit hTakes.caller (hEvolves.fills hBefore hHeld))
  · intro index caller slot entry hLimit hCaller hPhase
    -- the caller took this step and has just built, or it was about to fill the slot before
    rcases hTakes.caller_cases hCaller with ⟨-, rfl⟩ | ⟨-, hOld⟩
    · obtain ⟨-, -, -, hBuilt⟩ := hTakes.of_target_fill hPhase
      exact ⟨move, by simp, hBuilt, hPhase⟩
    · exact hMember (h.pending hLimit hOld hPhase)

/-- **What is answered from a slot after a clearing was built after it.** -/
theorem Sound.built_since_clearing (h : start.Sound) {before between after : List (Move V)}
    {clearing answering : Move V} {type : TypeName} {slot : Nat} {entry : Entry V}
    (hRun : Run start (before ++ clearing :: (between ++ answering :: after)) finish)
    (hClears : clearing.origin = .clear) (hShares : answering.Shares type slot entry) :
    ∃ building ∈ between, building.builtSlot? = some slot ∧
      building.target = .fill slot entry := by
  -- the machine that clears the table, and the one that answers
  obtain ⟨source, early, hEarly, hTakes, hRest⟩ := hRun.exists_step
  obtain ⟨source', late, hBetween, hTakes', -⟩ := hRest.exists_step
  have hSound := h.run hEarly
  have hCleared := hSound.take hTakes
  -- the steps in between start from a table with nothing in it
  have hFresh := fresh_of_cleared hCleared ((hSound.evolves hTakes).clears hClears)
  obtain ⟨hLate, hSince⟩ := hCleared.invariant (Fresh _) hFresh
    (fun hSound h hTakes => h.take hSound hTakes) hBetween
  obtain ⟨hFound, hHeld⟩ := hLate.of_shares hTakes' hShares
  exact hSince.built (hSince.beyond hFound) hHeld

/-! ## The main result -/

/--
**A cache that is off has nothing but what was put in while it was off.** When the cache is off and no
caller is about to clear the table, every slot that is found was opened by a caller that had found the
cache on, but that took this step while it was off; if no slot was opened so, the cache is empty. And
what is answered from a slot after a clearing of the table was built after that clearing.
-/
theorem off_keeps_late_slots (settings : Settings) (requests : List Request) {moves : List (Move V)}
    {machine : Machine V} (hRun : Run (create (Cache.create settings) requests) moves machine) :
    (machine.cache.enabled = false → (∀ caller ∈ machine.callers, caller.phase ≠ .clear) →
      (∀ type slot, machine.cache.slot? type = some slot →
        ∃ move ∈ moves, move.Opens type slot ∧ move.before.enabled = false) ∧
      ((∀ move ∈ moves, ∀ type slot, move.Opens type slot → move.before.enabled = true) →
        machine.cache.table = [] ∧ machine.cache.size = 0)) ∧
    ∀ before clearing between answering after type slot entry,
      moves = before ++ clearing :: (between ++ answering :: after) →
        clearing.origin = .clear → answering.Shares type slot entry →
          ∃ building ∈ between, building.builtSlot? = some slot ∧
            building.target = .fill slot entry := by
  have hSound := sound_create (V := V) settings requests
  constructor
  · intro hOff hIdle
    have hLate : ∀ type slot, machine.cache.slot? type = some slot →
        ∃ move ∈ moves, move.Opens type slot ∧ move.before.enabled = false := by
      rcases late_of_run hRun hOff with ⟨index, caller, hCaller, hPhase⟩ | hLate
      · exact absurd hPhase (hIdle caller (List.mem_of_getElem? hCaller))
      · exact hLate
    refine ⟨hLate, fun hOpened => ?_⟩
    have hTable : machine.cache.table = [] := by
      refine table_eq_nil fun type => ?_
      cases hSlot : machine.cache.slot? type with
      | none => rfl
      | some slot =>
        -- the slot would have been opened while the cache was on, and while it was off
        obtain ⟨move, hMove, hOpens, hBefore⟩ := hLate type slot hSlot
        rw [hOpened move hMove type slot hOpens] at hBefore
        cases hBefore
    exact ⟨hTable, by rw [Cache.size, hTable]; rfl⟩
  · intro before clearing between answering after type slot entry hMoves hClears hShares
    exact hSound.built_since_clearing (hMoves ▸ hRun) hClears hShares

end Machine

/-! ## Samples -/

namespace Sample

/-- One caller asks for the profile of orders, and one switches the cache off. -/
def pair : Machine Value :=
  .create (.create .standard) [.resolve order, .setEnabled false]

/-- The second begins when the first is done. -/
def oneAfterOther : List Nat := List.replicate 9 0 ++ [1, 1]

/-- The first looks whether the cache is on, and then the second takes both of its steps. -/
def oneBetween : List Nat := 0 :: 1 :: 1 :: List.replicate 8 0

end Sample

namespace Machine

/-- The cache is on while the first caller is at work, and then it is off and empty. -/
theorem off_keeps_late_slots_pair :
    Sample.pair.Run (Sample.pair.follow Sample.shop Sample.oneAfterOther).1
        (Sample.pair.follow Sample.shop Sample.oneAfterOther).2 ∧
      (Sample.pair.follow Sample.shop Sample.oneAfterOther).2.cache.builds = 1 ∧
      (Sample.pair.follow Sample.shop Sample.oneAfterOther).2.cache.size = 0 := by
  have hRun := run_follow Sample.shop Sample.pair Sample.oneAfterOther
  have hOutcome : (fun (played : List (Move Value) × Machine Value) =>
      (played.2.cache.enabled, played.2.isDone, played.2.cache.builds,
        played.1.all fun move => move.request == .setEnabled false || move.before.enabled))
      -- the run ends with the cache off, and no step but that of the switch was taken meanwhile
      (Sample.pair.follow Sample.shop Sample.oneAfterOther) = (false, true, 1, true) := by cbv
  simp only [Prod.mk.injEq] at hOutcome
  obtain ⟨hOff, hDone, hBuilds, hOn⟩ := hOutcome
  have hIdle : ∀ caller ∈ (Sample.pair.follow Sample.shop Sample.oneAfterOther).2.callers,
      caller.phase ≠ .clear := by
    intro caller hCaller hPhase
    have hFinal := List.all_eq_true.mp hDone caller hCaller
    rw [hPhase] at hFinal
    cases hFinal
  -- whatever is done for the first caller is done while the cache is on
  have hOpened : ∀ move ∈ (Sample.pair.follow Sample.shop Sample.oneAfterOther).1,
      ∀ type slot, move.Opens type slot → move.before.enabled = true := by
    intro move hMove type slot hOpens
    have hEither := List.all_eq_true.mp hOn move hMove
    rw [hOpens.request] at hEither
    simpa using hEither
  obtain ⟨hEmpty, -⟩ := off_keeps_late_slots _ _ hRun
  obtain ⟨-, hNone⟩ := hEmpty hOff hIdle
  exact ⟨hRun, hBuilds, (hNone hOpened).2⟩

/-- A caller that has found the cache on builds an entry, and leaves it there, when the cache is off. -/
theorem off_leaves_entry :
    ∃ moves machine,
      Run (create (Cache.create .standard) [.resolve Sample.order, .setEnabled false])
        moves machine ∧
      machine.isDone = true ∧ machine.cache.enabled = false ∧
      (machine.cache : Cache Value).size = 1 := by
  have hOutcome : (fun (machine : Machine Value) =>
      (machine.isDone, machine.cache.enabled, machine.cache.size))
      (Sample.pair.follow Sample.shop Sample.oneBetween).2 = (true, false, 1) := by cbv
  simp only [Prod.mk.injEq] at hOutcome
  exact ⟨_, _, run_follow Sample.shop Sample.pair Sample.oneBetween, hOutcome⟩

end Machine

end Introspect
