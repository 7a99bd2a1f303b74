import Introspect.Proofs.Interleaving.Steps

/-!
# Soundness of interleavings

However the steps of the callers interleave, the lock of a slot is held by one caller at a time. So a
caller that has found a slot empty while it held the lock finds it empty until it fills it, and what a
caller has found in a slot is there for good.

* `Cache.Admits` — what a caller in some phase relies on.
* `Machine.Sound` — every caller can rely on that, and no two hold one lock.

Main results:

* `Sound.take`: every step keeps a machine sound.
* `sound_create` and `Sound.run`: a machine is sound at first, and every run keeps it so.
* `Sound.keeps_run`: what a slot holds, and where a type is found, until the table is cleared.
-/

namespace Introspect

variable {V : Type}

/-- What a caller in a phase relies on: the slot it deals with has been opened; when it builds for the
slot, the slot is empty; and what it has found in the slot is there. -/
def Cache.Admits (cache : Cache V) : Phase V → Prop
  | .look slot | .lock slot | .lookAgain slot => slot < cache.slots.length
  | .build slot | .fill slot _ => slot < cache.slots.length ∧ cache.content? slot = none
  | .confirm slot entry => cache.content? slot = some entry
  | _ => True

/-- The slot that a caller in this phase is to fill. -/
def Phase.reserved? : Phase V → Option Nat
  | .build slot | .fill slot _ => some slot
  | _ => none

/-- A caller that is to fill a slot holds its lock. -/
theorem Phase.holdsLock_of_reserved {phase : Phase V} {slot : Nat}
    (h : phase.reserved? = some slot) : phase.holdsLock slot = true := by
  cases phase with
  | build held | fill held entry =>
    obtain rfl := Option.some.inj h
    exact beq_self_eq_true _
  | _ => cases h

/-! ## Steps -/

section Steps

variable {source : Source V} {machine : Machine V} {request : Request} {origin target : Phase V}
  {before after : Cache V}

/-- Only a slot that has been opened holds something. -/
theorem slot_lt_of_content {cache : Cache V} {slot : Nat} {entry : Entry V}
    (h : cache.content? slot = some entry) : slot < cache.slots.length := by
  refine Nat.lt_of_not_le fun hPast => ?_
  rw [Cache.content?, List.getElem?_eq_none hPast] at h
  cases h

/-- What a caller relies on survives the steps of others, unless one of these fills the slot that the
caller is to fill itself. -/
theorem Cache.Admits.evolve {phase : Phase V} (h : before.Admits phase)
    (hEvolves : Evolves request origin before after)
    (hOther : ∀ slot, phase.reserved? = some slot → ∀ entry, origin ≠ .fill slot entry) :
    after.Admits phase := by
  -- a slot that the caller is to fill stays empty
  have hEmpty : ∀ slot, phase.reserved? = some slot → before.content? slot = none →
      after.content? slot = none := by
    intro slot hReserved hNone
    cases hContent : after.content? slot with
    | none => rfl
    | some entry => exact absurd (hEvolves.fills hNone hContent) (hOther slot hReserved entry)
  cases phase with
  | look slot | lock slot | lookAgain slot => exact Nat.lt_of_lt_of_le h hEvolves.length_le
  | build slot | fill slot entry =>
    exact ⟨Nat.lt_of_lt_of_le h.1 hEvolves.length_le, hEmpty slot rfl h.2⟩
  | confirm slot entry => exact hEvolves.keeps h
  | start | buildAlone | seek | enter | clear | answered | switched => trivial

/-- A caller that takes a step can rely on what its next phase needs. -/
theorem Acts.admits_target (h : Acts source machine request origin target after)
    (hOrderly : machine.cache.Orderly) (hAdmits : machine.cache.Admits origin) :
    after.Admits target := by
  -- what the step itself has looked at is what the next phase relies on
  cases h with
  | loadsOn | loadsOff | buildsAlone | misses | fails | confirms | retries | switchesOn
  | switchesOff | clears => trivial
  | finds found => exact hOrderly.bounded found
  | @enters type slot after opened =>
    -- the type is found under the slot once it is opened
    have hFound := Cache.slot?_openSlot machine.cache type type
    have hAfter := hOrderly.openSlot type
    rw [opened] at hFound hAfter
    rw [if_pos rfl] at hFound
    exact hAfter.bounded hFound
  | hits held | hitsLate held => exact held
  | passes | locks => exact hAdmits
  | begins empty => exact ⟨hAdmits, empty⟩
  | builds built =>
    -- builds leave the slots alone
    obtain ⟨-, hBegins⟩ := hOrderly.of_build built
    refine ⟨by rw [hBegins.slots]; exact hAdmits.1, ?_⟩
    rw [Cache.content?, hBegins.slots]
    exact hAdmits.2
  | @fills type slot entry held after filled =>
    -- the slot was empty, so it holds what the caller has put there
    obtain ⟨hBounded, hEmpty⟩ := hAdmits
    have hContent : (machine.cache.fill slot entry).2.content? slot =
        if slot = slot then some entry else machine.cache.content? slot :=
      Cache.content?_fill hBounded hEmpty slot
    rw [if_pos rfl] at hContent
    rw [Cache.fill_of_empty hEmpty] at filled hContent
    obtain ⟨rfl, rfl⟩ := Prod.mk.inj filled
    exact hContent

/-- A caller that holds a lock after a step held it before, or nobody did. -/
theorem Acts.holdsLock_cases (h : Acts source machine request origin target after) {slot : Nat}
    (hHolds : target.holdsLock slot = true) :
    origin.holdsLock slot = true ∨ machine.isLocked slot = false := by
  -- a lock is taken only if it is free, and building and filling go on under it
  cases h with
  | locks free =>
    obtain rfl := beq_iff_eq.mp hHolds
    exact Or.inr free
  | begins | builds => exact Or.inl hHolds
  | _ => cases hHolds

end Steps

namespace Machine

variable {source : Source V} {machine start finish : Machine V} {moves : List (Move V)} {move : Move V}

theorem holdsLock_of_free {slot index : Nat} {caller : Caller V}
    (hFree : machine.isLocked slot = false) (hCaller : machine.callers[index]? = some caller) :
    caller.phase.holdsLock slot = false :=
  Bool.eq_false_iff.mpr (List.any_eq_false.mp hFree caller (List.mem_of_getElem? hCaller))

/-- No caller is misled by what others do. -/
structure Sound (machine : Machine V) : Prop where
  orderly : machine.cache.Orderly
  -- every caller can rely on what it has found
  admits : ∀ {index : Nat} {caller : Caller V}, machine.callers[index]? = some caller →
    machine.cache.Admits caller.phase
  -- the lock of a slot is held by one caller at most
  exclusive : ∀ {index other : Nat} {caller rival : Caller V} {slot : Nat},
    machine.callers[index]? = some caller → machine.callers[other]? = some rival →
    caller.phase.holdsLock slot = true → rival.phase.holdsLock slot = true → index = other

/-- At first no caller has begun. -/
theorem phase_of_create {cache : Cache V} {requests : List Request} {index : Nat}
    {caller : Caller V} (hCaller : (create cache requests).callers[index]? = some caller) :
    caller.phase = .start := by
  rw [create, List.getElem?_map, Option.map_eq_some_iff] at hCaller
  obtain ⟨request, -, rfl⟩ := hCaller
  rfl

/-- Callers that have not begun rely on nothing. -/
theorem sound_create (settings : Settings) (requests : List Request) :
    (create (Cache.create settings : Cache V) requests).Sound := by
  refine ⟨(Cache.tidy_create settings).toOrderly, fun hCaller => by rw [phase_of_create hCaller]; trivial, ?_⟩
  intro index other caller rival slot hCaller _ hHolds
  rw [phase_of_create hCaller] at hHolds
  cases hHolds

/-- What a caller does to the cache of a sound machine is a step that the cache may take. -/
theorem Sound.evolves (h : machine.Sound) (hTakes : Takes source machine move) :
    Evolves move.request move.origin machine.cache move.after :=
  hTakes.acts.evolves h.orderly

/-- Nobody else holds a lock that a caller holds after its step. -/
theorem Sound.holdsLock_of_target (h : machine.Sound) (hTakes : Takes source machine move)
    {slot index : Nat} {caller : Caller V} (hTarget : move.target.holdsLock slot = true)
    (hOther : index ≠ move.index) (hCaller : machine.callers[index]? = some caller) :
    caller.phase.holdsLock slot = false := by
  rcases hTakes.acts.holdsLock_cases hTarget with hOrigin | hFree
  · -- the caller held it before the step, when the machine was sound
    refine Bool.eq_false_iff.mpr fun hHolds => hOther ?_
    exact h.exclusive hCaller hTakes.caller hHolds hOrigin
  · exact holdsLock_of_free hFree hCaller

/-- **Every step keeps a machine sound.** -/
theorem Sound.take (h : machine.Sound) (hTakes : Takes source machine move) :
    (machine.take move).Sound := by
  have hEvolves := h.evolves hTakes
  refine ⟨hEvolves.orderly, ?_, ?_⟩
  · -- the caller that took the step has looked for itself, the others lose nothing by it
    intro index caller hCaller
    rcases hTakes.caller_cases hCaller with ⟨-, rfl⟩ | ⟨hOther, hOld⟩
    · exact hTakes.acts.admits_target h.orderly (h.admits hTakes.caller)
    · refine (h.admits hOld).evolve hEvolves ?_
      intro slot hReserved entry hFills
      -- whoever fills a slot holds its lock, and so does whoever is to fill it
      refine hOther (h.exclusive hOld hTakes.caller (Phase.holdsLock_of_reserved hReserved) ?_)
      rw [hFills]
      exact beq_self_eq_true _
  · -- two callers hold one lock: did either of them take the step?
    intro index other caller rival slot hCaller hRival hHolds hHolds'
    rcases hTakes.caller_cases hCaller with ⟨hSelf, rfl⟩ | ⟨hOther, hOld⟩
    · rcases hTakes.caller_cases hRival with ⟨hSelf', rfl⟩ | ⟨hOther', hOld'⟩
      · rw [hSelf, hSelf']
      · rw [h.holdsLock_of_target hTakes hHolds hOther' hOld'] at hHolds'
        cases hHolds'
    · rcases hTakes.caller_cases hRival with ⟨hSelf', rfl⟩ | ⟨hOther', hOld'⟩
      · rw [h.holdsLock_of_target hTakes hHolds' hOther hOld] at hHolds
        cases hHolds
      · exact h.exclusive hOld hOld' hHolds hHolds'

/-! ## Runs -/

/-- What holds of the steps taken so far and of the machine they have led to, if every step of a sound
machine keeps it. -/
theorem Sound.invariant (hStart : start.Sound) (Holds : List (Move V) → Machine V → Prop)
    (hFirst : Holds [] start)
    (hNext : ∀ {source moves machine move}, machine.Sound → Holds moves machine →
      Takes source machine move → Holds (moves ++ [move]) (machine.take move))
    (hRun : Run start moves finish) : finish.Sound ∧ Holds moves finish := by
  induction hRun with
  | refl => exact ⟨hStart, hFirst⟩
  | step source run able ih =>
    obtain ⟨hSound, hHolds⟩ := ih
    have hTakes := takes_of_move? able
    exact ⟨hSound.take hTakes, hNext hSound hHolds hTakes⟩

/-- **Every run keeps a machine sound.** -/
theorem Sound.run (h : start.Sound) (hRun : Run start moves finish) : finish.Sound :=
  (h.invariant (fun _ _ => True) trivial (fun _ _ _ => trivial) hRun).1

/-- **What a slot holds stays there**, and a type stays where it is found until the table is cleared. -/
theorem Sound.keeps_run (h : start.Sound) (hRun : Run start moves finish) :
    (∀ {slot entry}, start.cache.content? slot = some entry →
      finish.cache.content? slot = some entry) ∧
    ((∀ move ∈ moves, move.origin ≠ .clear) → ∀ {type slot},
      start.cache.slot? type = some slot → finish.cache.slot? type = some slot) := by
  refine (h.invariant (fun moves machine =>
    (∀ {slot entry}, start.cache.content? slot = some entry →
      machine.cache.content? slot = some entry) ∧
    ((∀ move ∈ moves, move.origin ≠ .clear) → ∀ {type slot},
      start.cache.slot? type = some slot → machine.cache.slot? type = some slot))
    ⟨fun hHeld => hHeld, fun _ _ _ hFound => hFound⟩ ?_ hRun).2
  -- one more step keeps what was held, and a type that was found unless it clears the table
  intro source moves machine move hSound ⟨hContent, hSlot⟩ hTakes
  have hEvolves := hSound.evolves hTakes
  refine ⟨fun hHeld => hEvolves.keeps (hContent hHeld), ?_⟩
  intro hKept type slot hFound
  have hBefore := hSlot (fun other hOther => hKept other (List.mem_append_left _ hOther)) hFound
  exact hEvolves.finds (hKept move (by simp)) hBefore

end Machine

end Introspect
