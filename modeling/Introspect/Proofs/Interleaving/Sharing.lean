import Introspect.Proofs.Interleaving.Soundness
import Introspect.Proofs.Profile.Discovery

/-!
# Callers share builds

A slot is filled once, with a build that was made for it, and no second build is made for it. Whoever
is answered from a slot is answered with what the slot holds, and finds the type under the slot at that
time; so callers are answered alike until the table is cleared. While the cache stays on, a type keeps
its slot, and is built once.

* `Move.published?`, `Move.builtSlot?` and `Move.built?` — the slot that a step fills, the slot that it
  builds for, and what it builds.
* `Move.Shares` — a step answers a caller from a slot.
* `Machine.BuiltOnce`, `Machine.PublishedOnce` and `Machine.Numbered` — what has been built so far.
* `Machine.Unbroken` — what holds while the cache is not switched off.

Main results:

* `builtOnce_of_run`, `publishedOnce_of_run` and `numbered_of_run`: nothing is built for a slot twice,
  or published in it, and every build has a number of its own.
* `Sound.of_answered`: where answers come from.
* `Sound.shares_eq`: two answers with no clearing in between.
* `unbroken_of_run`: while the cache stays on, every type has one build at most.
* `builds_shared`: all of that, for any interleaving.
-/

namespace Introspect

variable {V : Type}

namespace Move

/-- The slot that a step publishes a profile in. -/
def published? (move : Move V) : Option Nat :=
  match move.origin with
  | .fill slot _ => some slot
  | _ => none

/-- The slot that a step has built a profile for. -/
def builtSlot? (move : Move V) : Option Nat :=
  match move.origin, move.target with
  | .build slot, .fill _ _ => some slot
  | _, _ => none

/-- The profile that a step has built, for a slot or for one caller alone, with its type. -/
def built? (move : Move V) : Option (TypeName × Entry V) :=
  match move.request, move.origin, move.target with
  | .resolve type, .buildAlone, .answered (.ok entry) => some (type, entry)
  | .resolve type, .build _, .fill _ entry => some (type, entry)
  | _, _, _ => none

/-- The step answers a request for a type with what was found in a slot. -/
structure Shares (move : Move V) (type : TypeName) (slot : Nat) (entry : Entry V) : Prop where
  request : move.request = .resolve type
  origin : move.origin = .confirm slot entry
  target : move.target = .answered (.ok entry)

/-- The step stores that the cache is off. -/
def SwitchesOff (move : Move V) : Prop :=
  move.request = .setEnabled false ∧ move.origin = .start

end Move

/-- How often a type was built. -/
def buildCount (moves : List (Move V)) (type : TypeName) : Nat :=
  (moves.filterMap Move.built?).countP (·.1 = type)

/-- A type was built when one of the builds was of it. -/
theorem buildCount_pos_iff {moves : List (Move V)} {type : TypeName} :
    0 < buildCount moves type ↔ ∃ entry, (type, entry) ∈ moves.filterMap Move.built? := by
  rw [buildCount, List.countP_pos_iff]
  constructor
  · rintro ⟨⟨other, entry⟩, hMember, hSame⟩
    obtain rfl : other = type := of_decide_eq_true hSame
    exact ⟨entry, hMember⟩
  · rintro ⟨entry, hMember⟩
    exact ⟨(type, entry), hMember, decide_eq_true rfl⟩

/-- The slot that a caller in this phase deals with. -/
def Phase.slot? : Phase V → Option Nat
  | .look slot | .lock slot | .lookAgain slot | .build slot | .fill slot _ | .confirm slot _ =>
    some slot
  | _ => none

/-! ## What steps build -/

section Steps

variable {source : Source V} {machine : Machine V} {move : Move V} {moves : List (Move V)}
  {type : TypeName} {slot : Nat} {entry : Entry V}

/-- One more step selects what it selects, behind what was selected before. -/
theorem filterMap_concat {β : Type} (select? : Move V → Option β) (moves : List (Move V))
    (move : Move V) :
    (moves ++ [move]).filterMap select? = moves.filterMap select? ++ (select? move).toList := by
  rw [List.filterMap_append]
  cases hMove : select? move <;> simp [hMove]

/-- What one more step adds to what was selected. -/
theorem mem_filterMap_concat {β : Type} {select? : Move V → Option β} {item : β} :
    item ∈ (moves ++ [move]).filterMap select? ↔
      item ∈ moves.filterMap select? ∨ select? move = some item := by
  rw [filterMap_concat, List.mem_append, Option.mem_toList]

/-- One more step adds to the count what it has built. -/
theorem buildCount_concat :
    buildCount (moves ++ [move]) type =
      buildCount moves type + move.built?.toList.countP (·.1 = type) := by
  rw [buildCount, filterMap_concat, List.countP_append]
  rfl

/-- A list without repetitions stays so when something new is put behind it. -/
theorem nodup_append_toList {β : Type} {items : List β} {item? : Option β} (h : items.Nodup)
    (hNew : ∀ item, item? = some item → item ∉ items) : (items ++ item?.toList).Nodup := by
  cases item? with
  | none => simpa using h
  | some item =>
    refine List.nodup_append.mpr ⟨h, by simp, ?_⟩
    intro other hOther again hAgain hSame
    obtain rfl := List.mem_singleton.mp hAgain
    exact hNew again rfl (hSame ▸ hOther)

/-- A step publishes where its caller is to fill a slot. -/
theorem Move.origin_of_published? (h : move.published? = some slot) :
    ∃ entry, move.origin = .fill slot entry := by
  unfold published? at h
  split at h
  · rename_i held entry hOrigin
    cases h
    exact ⟨entry, hOrigin⟩
  · cases h

namespace Machine

/-- A build that succeeds for a slot, with its number and what it leads to. -/
theorem Takes.of_builtSlot? (hTakes : Takes source machine move)
    (h : move.builtSlot? = some slot) :
    ∃ type entry, move.request = .resolve type ∧ move.origin = .build slot ∧
      move.target = .fill slot entry ∧ move.built? = some (type, entry) := by
  obtain ⟨index, request, origin, target, before, after⟩ := move
  obtain ⟨-, -, hActs⟩ := hTakes
  -- a build for a slot is the one act that goes on to fill one
  cases hActs with
  | builds built =>
    cases h
    exact ⟨_, _, rfl, rfl, rfl, rfl⟩
  | _ => cases h

/-- A build that succeeds has the number that comes next, and was made by a caller for itself or for the
slot that it is then to fill. -/
theorem Takes.of_built? (hTakes : Takes source machine move) (hOrderly : machine.cache.Orderly)
    (h : move.built? = some (type, entry)) :
    move.request = .resolve type ∧ entry.build = machine.cache.builds + 1 ∧
      move.after.builds = entry.build ∧
      (move.origin = .buildAlone ∨
        ∃ slot, move.builtSlot? = some slot ∧ move.origin = .build slot) := by
  -- whatever was built, its number is that of the build
  have hNumber : ∀ {asked : TypeName} {made : Entry V} {after : Cache V},
      machine.cache.build source asked = (.ok made, after) →
        made.build = machine.cache.builds + 1 ∧ after.builds = made.build := by
    intro asked made after hBuild
    obtain ⟨hResult, hBegins⟩ := hOrderly.of_build hBuild
    cases hProfile : source.profile asked with
    | error cause =>
      rw [hProfile] at hResult
      cases hResult
    | ok profile =>
      rw [hProfile] at hResult
      obtain rfl := Except.ok.inj hResult
      exact ⟨rfl, hBegins.builds⟩
  obtain ⟨index, request, origin, target, before, after⟩ := move
  obtain ⟨-, -, hActs⟩ := hTakes
  cases hActs with
  -- a build for the caller itself, or one for a slot
  | @buildsAlone asked result after built =>
    cases result with
    | error cause => cases h
    | ok made =>
      cases h
      obtain ⟨hMade, hAfter⟩ := hNumber built
      exact ⟨rfl, hMade, hAfter, Or.inl rfl⟩
  | @builds asked slot made after built =>
    cases h
    obtain ⟨hMade, hAfter⟩ := hNumber built
    exact ⟨rfl, hMade, hAfter, Or.inr ⟨slot, rfl, rfl⟩⟩
  | _ => cases h

/-- What a caller is to fill a slot with, it has just built. -/
theorem Takes.of_target_fill (hTakes : Takes source machine move)
    (h : move.target = .fill slot entry) :
    ∃ type, move.request = .resolve type ∧ move.built? = some (type, entry) ∧
      move.builtSlot? = some slot := by
  obtain ⟨index, request, origin, target, before, after⟩ := move
  obtain ⟨-, -, hActs⟩ := hTakes
  cases hActs with
  | builds built =>
    cases h
    exact ⟨_, rfl, rfl, rfl⟩
  | _ => cases h

/-- **Where answers come from**: a caller has built for itself, or answers with what a slot holds under
which the type is found at that time. -/
theorem Sound.of_answered (h : machine.Sound) (hTakes : Takes source machine move)
    (hTarget : move.target = .answered (.ok entry)) :
    move.origin = .buildAlone ∨ ∃ type slot, move.Shares type slot entry ∧
      machine.cache.slot? type = some slot ∧ machine.cache.content? slot = some entry := by
  have hAdmits := h.admits hTakes.caller
  obtain ⟨index, request, origin, target, before, after⟩ := move
  obtain ⟨-, -, hActs⟩ := hTakes
  cases hActs with
  | buildsAlone built => exact Or.inl rfl
  | confirms found =>
    cases hTarget
    exact Or.inr ⟨_, _, ⟨rfl, rfl, rfl⟩, found, hAdmits⟩
  | _ => cases hTarget

/-- Who is answered from a slot finds the type under it, and is answered with what it holds. -/
theorem Sound.of_shares (h : machine.Sound) (hTakes : Takes source machine move)
    (hShares : move.Shares type slot entry) :
    machine.cache.slot? type = some slot ∧ machine.cache.content? slot = some entry := by
  rcases h.of_answered hTakes hShares.target with hAlone | ⟨asked, place, hAnswer, hFound, hHeld⟩
  · -- who builds for itself has not looked into any slot
    rw [hShares.origin] at hAlone
    cases hAlone
  · obtain rfl := Request.resolve.inj (hAnswer.request.symm.trans hShares.request)
    obtain ⟨rfl, -⟩ := Phase.confirm.inj (hAnswer.origin.symm.trans hShares.origin)
    exact ⟨hFound, hHeld⟩

/-- An answer from a slot changes nothing. -/
theorem Takes.cache_of_shares (hTakes : Takes source machine move)
    (hShares : move.Shares type slot entry) : (machine.take move).cache = machine.cache := by
  obtain ⟨index, request, origin, target, before, after⟩ := move
  obtain ⟨-, -, hActs⟩ := hTakes
  obtain ⟨rfl, rfl, rfl⟩ := hShares
  cases hActs with
  | confirms found => rfl

/-- A slot that was filled holds something. -/
theorem Takes.full_of_fill (hTakes : Takes source machine move)
    (hAdmits : machine.cache.Admits move.origin) (hOrigin : move.origin = .fill slot entry) :
    ∃ held, (machine.take move).cache.content? slot = some held := by
  obtain ⟨index, request, origin, target, before, after⟩ := move
  obtain ⟨-, -, hActs⟩ := hTakes
  cases hActs with
  | fills filled =>
    cases hOrigin
    have hContent : (machine.cache.fill slot entry).2.content? slot =
        if slot = slot then some entry else machine.cache.content? slot :=
      Cache.content?_fill hAdmits.1 hAdmits.2 slot
    rw [filled, if_pos rfl] at hContent
    exact ⟨entry, hContent⟩
  | _ => cases hOrigin

/-- A caller that deals with a slot dealt with it before, or has just found the type under it. -/
theorem Takes.slot_of_target (hTakes : Takes source machine move)
    (hRequest : move.request = .resolve type) (hTarget : move.target.slot? = some slot) :
    move.origin.slot? = some slot ∨ move.after.slot? type = some slot := by
  obtain ⟨index, request, origin, target, before, after⟩ := move
  obtain ⟨-, -, hActs⟩ := hTakes
  cases hActs with
  | finds found =>
    cases hRequest
    cases hTarget
    exact Or.inr found
  -- a slot that is opened for a type is found under it
  | @enters asked held after opened =>
    cases hRequest
    cases hTarget
    have hFound := Cache.slot?_openSlot machine.cache type type
    rw [opened, if_pos rfl] at hFound
    exact Or.inr hFound
  -- a caller that goes on stays with its slot
  | hits | passes | locks | hitsLate | begins | builds | fills => exact Or.inl hTarget
  | _ => cases hTarget

/-- Only a caller that asks for a type deals with a slot. -/
theorem Takes.resolves_of_slot (hTakes : Takes source machine move)
    (hOrigin : move.origin.slot? = some slot) : ∃ type, move.request = .resolve type := by
  obtain ⟨index, request, origin, target, before, after⟩ := move
  obtain ⟨-, -, hActs⟩ := hTakes
  cases hActs with
  | switchesOn | switchesOff | clears => cases hOrigin
  | _ => exact ⟨_, rfl⟩

/-- Only a caller that finds the cache off goes on to build for itself. -/
theorem Takes.off_of_target (hTakes : Takes source machine move)
    (hTarget : move.target = .buildAlone) : machine.cache.enabled = false := by
  obtain ⟨index, request, origin, target, before, after⟩ := move
  obtain ⟨-, -, hActs⟩ := hTakes
  cases hActs with
  | loadsOff off => exact off
  | _ => cases hTarget

/-- Only a caller that has switched the cache off goes on to clear the table. -/
theorem Takes.switchesOff_of_target (hTakes : Takes source machine move)
    (hTarget : move.target = .clear) : move.SwitchesOff := by
  obtain ⟨index, request, origin, target, before, after⟩ := move
  obtain ⟨-, -, hActs⟩ := hTakes
  cases hActs with
  | switchesOff => exact ⟨rfl, rfl⟩
  | _ => cases hTarget

/-- Whoever switches the cache off clears the table next. -/
theorem Takes.target_of_switchesOff (hTakes : Takes source machine move) (hOff : move.SwitchesOff) :
    move.target = .clear := by
  obtain ⟨index, request, origin, target, before, after⟩ := move
  obtain ⟨-, -, hActs⟩ := hTakes
  obtain ⟨rfl, rfl⟩ := hOff
  cases hActs with
  | switchesOff => rfl

end Machine

end Steps

/-! ## What has been built so far -/

namespace Machine

variable {source : Source V} {machine start finish : Machine V} {moves : List (Move V)} {move : Move V}
  {type : TypeName} {slot : Nat}

/-- No slot was filled twice, and those that were filled hold something. -/
structure PublishedOnce (moves : List (Move V)) (machine : Machine V) : Prop where
  nodup : (moves.filterMap Move.published?).Nodup
  full : ∀ slot ∈ moves.filterMap Move.published?, ∃ entry,
    machine.cache.content? slot = some entry

/-- No step fills a slot for a second time. -/
theorem PublishedOnce.take (h : PublishedOnce moves machine) (hSound : machine.Sound)
    (hTakes : Takes source machine move) : PublishedOnce (moves ++ [move]) (machine.take move) := by
  have hEvolves := hSound.evolves hTakes
  have hAdmits := hSound.admits hTakes.caller
  refine ⟨?_, ?_⟩
  · rw [filterMap_concat]
    refine nodup_append_toList h.nodup fun slot hPublished hOld => ?_
    -- a slot that is filled was empty, and one that was filled before is not
    obtain ⟨entry, hOrigin⟩ := Move.origin_of_published? hPublished
    obtain ⟨held, hHeld⟩ := h.full slot hOld
    rw [hOrigin] at hAdmits
    rw [hAdmits.2] at hHeld
    cases hHeld
  · intro slot hSlot
    rcases mem_filterMap_concat.mp hSlot with hOld | hPublished
    · obtain ⟨entry, hHeld⟩ := h.full slot hOld
      exact ⟨entry, hEvolves.keeps hHeld⟩
    · obtain ⟨entry, hOrigin⟩ := Move.origin_of_published? hPublished
      exact hTakes.full_of_fill hAdmits hOrigin

/-- No two builds that succeeded were made for one slot, and what was built for a slot is in it, or is
about to be. -/
structure BuiltOnce (moves : List (Move V)) (machine : Machine V) : Prop where
  nodup : (moves.filterMap Move.builtSlot?).Nodup
  -- and a slot that is about to be filled has a caller that holds its lock
  used : ∀ slot ∈ moves.filterMap Move.builtSlot?,
    (∃ entry, machine.cache.content? slot = some entry) ∨
      ∃ (index : Nat) (caller : Caller V) (entry : Entry V),
        machine.callers[index]? = some caller ∧ caller.phase = .fill slot entry

/-- Nothing was built yet for a slot that a build succeeds for. -/
theorem BuiltOnce.fresh (h : BuiltOnce moves machine) (hSound : machine.Sound)
    (hTakes : Takes source machine move) (hSlot : move.builtSlot? = some slot) :
    slot ∉ moves.filterMap Move.builtSlot? := by
  intro hOld
  obtain ⟨type, entry, -, hOrigin, -⟩ := hTakes.of_builtSlot? hSlot
  have hAdmits := hSound.admits hTakes.caller
  rw [hOrigin] at hAdmits
  rcases h.used slot hOld with ⟨held, hHeld⟩ | ⟨index, caller, built, hCaller, hPhase⟩
  · -- the slot is empty when the build begins
    rw [hAdmits.2] at hHeld
    cases hHeld
  · -- a caller that is to fill the slot would hold the lock that the builder holds
    have hHolds : caller.phase.holdsLock slot = true :=
      Phase.holdsLock_of_reserved (by rw [hPhase]; rfl)
    have hHolds' : move.origin.holdsLock slot = true :=
      Phase.holdsLock_of_reserved (by rw [hOrigin]; rfl)
    have hSame : index = move.index := hSound.exclusive hCaller hTakes.caller hHolds hHolds'
    rw [hSame, hTakes.caller] at hCaller
    obtain rfl := Option.some.inj hCaller
    rw [hOrigin] at hPhase
    cases hPhase

/-- No step builds for a slot that was built for before. -/
theorem BuiltOnce.take (h : BuiltOnce moves machine) (hSound : machine.Sound)
    (hTakes : Takes source machine move) : BuiltOnce (moves ++ [move]) (machine.take move) := by
  have hEvolves := hSound.evolves hTakes
  refine ⟨?_, ?_⟩
  · -- the builds that succeeded
    rw [filterMap_concat]
    exact nodup_append_toList h.nodup fun slot hSlot => h.fresh hSound hTakes hSlot
  · -- what became of them
    intro slot hSlot
    rcases mem_filterMap_concat.mp hSlot with hOld | hBuilt
    · rcases h.used slot hOld with ⟨entry, hHeld⟩ | ⟨index, caller, entry, hCaller, hPhase⟩
      · exact Or.inl ⟨entry, hEvolves.keeps hHeld⟩
      · by_cases hSelf : index = move.index
        · -- the caller that was to fill the slot has just done so
          rw [hSelf, hTakes.caller] at hCaller
          obtain rfl := Option.some.inj hCaller
          exact Or.inl (hTakes.full_of_fill (hSound.admits hTakes.caller) hPhase)
        · refine Or.inr ⟨index, caller, entry, ?_, hPhase⟩
          rw [Takes.callers_of_ne hSelf]
          exact hCaller
    · -- the build is done, and its caller is about to fill the slot
      obtain ⟨type, entry, -, -, hTarget, -⟩ := hTakes.of_builtSlot? hBuilt
      exact Or.inr ⟨move.index, _, entry, hTakes.callers_self, hTarget⟩

/-- Builds that succeeded have numbers of their own, all of them given out already. -/
structure Numbered (moves : List (Move V)) (machine : Machine V) : Prop where
  nodup : ((moves.filterMap Move.built?).map (·.2.build)).Nodup
  le : ∀ pair ∈ moves.filterMap Move.built?, pair.2.build ≤ machine.cache.builds

/-- No step gives out a number for a second time. -/
theorem Numbered.take (h : Numbered moves machine) (hSound : machine.Sound)
    (hTakes : Takes source machine move) : Numbered (moves ++ [move]) (machine.take move) := by
  have hEvolves := hSound.evolves hTakes
  refine ⟨?_, ?_⟩
  · rw [filterMap_concat, List.map_append, ← Option.toList_map]
    refine nodup_append_toList h.nodup fun number hNumber hOld => ?_
    obtain ⟨⟨type, entry⟩, hBuilt, rfl⟩ := Option.map_eq_some_iff.mp hNumber
    obtain ⟨-, hNext, -⟩ := hTakes.of_built? hSound.orderly hBuilt
    -- the next number is beyond all that were given out
    obtain ⟨pair, hPair, hSame⟩ := List.mem_map.mp hOld
    have hBound : pair.2.build ≤ machine.cache.builds := h.le pair hPair
    dsimp only at hSame hNext
    omega
  · -- a number that was given out stays below the count
    rintro ⟨type, entry⟩ hPair
    rcases mem_filterMap_concat.mp hPair with hOld | hBuilt
    · exact Nat.le_trans (h.le _ hOld) hEvolves.builds_le
    · obtain ⟨-, -, hAfter, -⟩ := hTakes.of_built? hSound.orderly hBuilt
      exact Nat.le_of_eq hAfter.symm

/-! ## Answers that are shared -/

/-- **Two answers for a type are one and the same entry** unless the table was cleared in between. -/
theorem Sound.shares_eq (h : start.Sound) {before between after : List (Move V)}
    {one two : Move V} {slot slot' : Nat} {entry entry' : Entry V}
    (hRun : Run start (before ++ one :: (between ++ two :: after)) finish)
    (hOne : one.Shares type slot entry) (hTwo : two.Shares type slot' entry')
    (hKept : ∀ move ∈ between, move.origin ≠ .clear) : entry = entry' := by
  -- the machines that give the two answers
  obtain ⟨source, early, hEarly, hTakes, hRest⟩ := hRun.exists_step
  obtain ⟨source', late, hBetween, hTakes', -⟩ := hRest.exists_step
  have hSound := h.run hEarly
  have hFirst := hSound.of_shares hTakes hOne
  have hLater := (hSound.take hTakes).run hBetween
  have hSecond := hLater.of_shares hTakes' hTwo
  -- an answer leaves the cache as it is, and nothing is lost on the way to the other
  have hSame : (early.take one).cache = early.cache := hTakes.cache_of_shares hOne
  obtain ⟨hContents, hSlots⟩ := (hSound.take hTakes).keeps_run hBetween
  -- the type is found under the same slot, and the slot holds the same
  have hFound := hSlots hKept (hSame ▸ hFirst.1)
  rw [hSecond.1] at hFound
  obtain rfl := Option.some.inj hFound
  have hHeld := hContents (hSame ▸ hFirst.2)
  rw [hSecond.2] at hHeld
  exact (Option.some.inj hHeld).symm

/-! ## While the cache stays on -/

/-- What holds as long as the cache is not switched off. -/
structure Unbroken (moves : List (Move V)) (machine : Machine V) : Prop where
  on : machine.cache.enabled = true
  /-- Nobody builds for itself alone, and nobody is about to clear the table. -/
  idle : ∀ {index : Nat} {caller : Caller V}, machine.callers[index]? = some caller →
    caller.phase ≠ .buildAlone ∧ caller.phase ≠ .clear
  /-- Whoever deals with a slot deals with that of its type. -/
  engaged : ∀ {index : Nat} {caller : Caller V} {type : TypeName} {slot : Nat},
    machine.callers[index]? = some caller → caller.request = .resolve type →
      caller.phase.slot? = some slot → machine.cache.slot? type = some slot
  /-- What a caller is to fill a slot with was built for the type that it asks for. -/
  pending : ∀ {index : Nat} {caller : Caller V} {type : TypeName} {slot : Nat} {entry : Entry V},
    machine.callers[index]? = some caller → caller.request = .resolve type →
      caller.phase = .fill slot entry → (type, entry) ∈ moves.filterMap Move.built?
  /-- What a slot holds was built for the type that is found under it. -/
  stocked : ∀ {slot : Nat} {entry : Entry V}, machine.cache.content? slot = some entry →
    ∃ type built, (type, built) ∈ moves.filterMap Move.built? ∧
      machine.cache.slot? type = some slot
  /-- Whoever is answered asked for a type that was built. -/
  answered : ∀ {index : Nat} {caller : Caller V} {type : TypeName} {entry : Entry V},
    machine.callers[index]? = some caller → caller.request = .resolve type →
      caller.phase = .answered (.ok entry) → ∃ built, (type, built) ∈ moves.filterMap Move.built?
  /-- A type that was built is found under a slot that something was built for. -/
  located : ∀ {type : TypeName} {entry : Entry V}, (type, entry) ∈ moves.filterMap Move.built? →
    ∃ slot ∈ moves.filterMap Move.builtSlot?, machine.cache.slot? type = some slot
  once : ∀ type, buildCount moves type ≤ 1

namespace Unbroken

variable {entry : Entry V}

/-- Nothing that was found before a step is lost. -/
theorem finds (h : Unbroken moves machine) (hSound : machine.Sound)
    (hTakes : Takes source machine move) (hFound : machine.cache.slot? type = some slot) :
    move.after.slot? type = some slot := by
  obtain ⟨-, hNotClear⟩ := h.idle hTakes.caller
  exact (hSound.evolves hTakes).finds hNotClear hFound

/-- Whoever builds, builds for the slot under which its type is found. -/
theorem slot_of_built? (h : Unbroken moves machine) (hSound : machine.Sound)
    (hTakes : Takes source machine move) (hMove : move.built? = some (type, entry)) :
    ∃ slot, move.builtSlot? = some slot ∧ machine.cache.slot? type = some slot := by
  obtain ⟨hNotAlone, -⟩ := h.idle hTakes.caller
  obtain ⟨hRequest, -, -, hAlone | ⟨slot, hBuiltSlot, hOrigin⟩⟩ :=
    hTakes.of_built? hSound.orderly hMove
  · exact absurd hAlone hNotAlone
  · exact ⟨slot, hBuiltSlot, h.engaged hTakes.caller hRequest (by rw [hOrigin]; rfl)⟩

/-- What is in a slot after a step was there, or the caller had built it. -/
theorem stocked_take (h : Unbroken moves machine) (hSound : machine.Sound)
    (hTakes : Takes source machine move) (hHeld : move.after.content? slot = some entry) :
    ∃ type built, (type, built) ∈ moves.filterMap Move.built? ∧
      move.after.slot? type = some slot := by
  -- what was there before is there still
  cases hBefore : machine.cache.content? slot with
  | some held =>
    obtain ⟨type, built, hOld, hFound⟩ := h.stocked hBefore
    exact ⟨type, built, hOld, h.finds hSound hTakes hFound⟩
  | none =>
    -- the slot has just been filled, with what its caller had built
    have hOrigin : move.origin = .fill slot entry := (hSound.evolves hTakes).fills hBefore hHeld
    have hDeals : move.origin.slot? = some slot := by
      rw [hOrigin]
      rfl
    obtain ⟨type, hRequest⟩ := hTakes.resolves_of_slot hDeals
    have hFound := h.engaged hTakes.caller hRequest hDeals
    exact ⟨type, entry, h.pending hTakes.caller hRequest hOrigin, h.finds hSound hTakes hFound⟩

/-- Whoever is answered by a step asked for a type that was built. -/
theorem answered_take (h : Unbroken moves machine) (hSound : machine.Sound)
    (hTakes : Takes source machine move) (hRequest : move.request = .resolve type)
    (hTarget : move.target = .answered (.ok entry)) :
    ∃ built, (type, built) ∈ moves.filterMap Move.built? := by
  obtain ⟨hNotAlone, -⟩ := h.idle hTakes.caller
  rcases hSound.of_answered hTakes hTarget with hAlone | ⟨asked, slot, hShares, hFound, hHeld⟩
  · exact absurd hAlone hNotAlone
  · obtain rfl := Request.resolve.inj (hShares.request.symm.trans hRequest)
    -- what the slot holds was built for the type that is found under it, and that is this one
    obtain ⟨other, built, hOld, hOther⟩ := h.stocked hHeld
    obtain rfl := hSound.orderly.apart hOther hFound
    exact ⟨built, hOld⟩

/-- No step builds a type that was built before. -/
theorem buildCount_take_le (h : Unbroken moves machine) (hBuilt : BuiltOnce moves machine)
    (hSound : machine.Sound) (hTakes : Takes source machine move) (type : TypeName) :
    buildCount (moves ++ [move]) type ≤ 1 := by
  have hOnce := h.once type
  rw [buildCount_concat]
  cases hMove : move.built? with
  | none => simpa using hOnce
  | some pair =>
    obtain ⟨asked, entry⟩ := pair
    by_cases hType : asked = type
    · -- an earlier build of the type would have been made for the same slot
      have hNone : ¬0 < buildCount moves type := by
        intro hPositive
        obtain ⟨earlier, hEarlier⟩ := buildCount_pos_iff.mp hPositive
        obtain ⟨slot, hBuiltSlot, hFound⟩ := h.slot_of_built? hSound hTakes hMove
        obtain ⟨slot', hSlots, hFound'⟩ := h.located hEarlier
        rw [← hType, hFound] at hFound'
        obtain rfl := Option.some.inj hFound'
        exact hBuilt.fresh hSound hTakes hBuiltSlot hSlots
      have hMore : (some (asked, entry)).toList.countP (·.1 = type) ≤ 1 :=
        List.countP_le_length
      omega
    · simpa [hType] using hOnce

/-- **One step**, other than switching the cache off, keeps all of that. -/
theorem take (h : Unbroken moves machine) (hBuilt : BuiltOnce moves machine)
    (hSound : machine.Sound) (hTakes : Takes source machine move) (hOn : ¬move.SwitchesOff) :
    Unbroken (moves ++ [move]) (machine.take move) := by
  have hEvolves := hSound.evolves hTakes
  have hKept : ∀ {type slot}, machine.cache.slot? type = some slot →
      move.after.slot? type = some slot := h.finds hSound hTakes
  have hMember : ∀ {pair}, pair ∈ moves.filterMap Move.built? →
      pair ∈ (moves ++ [move]).filterMap Move.built? :=
    fun hOld => mem_filterMap_concat.mpr (Or.inl hOld)
  refine ⟨?_, ?_, ?_, ?_, ?_, ?_, ?_, h.buildCount_take_le hBuilt hSound hTakes⟩
  · -- only a request to be switched off switches the cache off
    rcases hEvolves.switches with hSame | ⟨hOrigin, hRequest⟩
    · exact hSame.trans h.on
    · cases hAfter : move.after.enabled with
      | true => exact hAfter
      | false => exact absurd ⟨hAfter ▸ hRequest, hOrigin⟩ hOn
  · -- a caller that found the cache off, or has switched it off, would be needed
    intro index caller hCaller
    rcases hTakes.caller_cases hCaller with ⟨-, rfl⟩ | ⟨-, hOld⟩
    · refine ⟨fun hTarget => ?_, fun hTarget => ?_⟩
      · have hOff := hTakes.off_of_target hTarget
        rw [h.on] at hOff
        cases hOff
      · exact hOn (hTakes.switchesOff_of_target hTarget)
    · exact h.idle hOld
  · -- a caller comes to a slot by finding its type there, and the type stays there
    intro index caller type slot hCaller hRequest hPhase
    rcases hTakes.caller_cases hCaller with ⟨-, rfl⟩ | ⟨-, hOld⟩
    · rcases hTakes.slot_of_target hRequest hPhase with hOrigin | hFound
      · exact hKept (h.engaged hTakes.caller hRequest hOrigin)
      · exact hFound
    · exact hKept (h.engaged hOld hRequest hPhase)
  · -- who is to fill a slot has just built for it, or had done so before
    intro index caller type slot entry hCaller hRequest hPhase
    rcases hTakes.caller_cases hCaller with ⟨-, rfl⟩ | ⟨-, hOld⟩
    · obtain ⟨asked, hAsked, hMove, -⟩ := hTakes.of_target_fill hPhase
      obtain rfl := Request.resolve.inj (hAsked.symm.trans hRequest)
      exact mem_filterMap_concat.mpr (Or.inr hMove)
    · exact hMember (h.pending hOld hRequest hPhase)
  · -- what slots hold
    intro slot entry hHeld
    obtain ⟨type, built, hOld, hFound⟩ := h.stocked_take hSound hTakes hHeld
    exact ⟨type, built, hMember hOld, hFound⟩
  · -- who is answered
    intro index caller type entry hCaller hRequest hPhase
    rcases hTakes.caller_cases hCaller with ⟨-, rfl⟩ | ⟨-, hOld⟩
    · obtain ⟨built, hBuilt⟩ := h.answered_take hSound hTakes hRequest hPhase
      exact ⟨built, hMember hBuilt⟩
    · obtain ⟨built, hBuilt⟩ := h.answered hOld hRequest hPhase
      exact ⟨built, hMember hBuilt⟩
  · -- what was built
    intro type entry hPair
    rcases mem_filterMap_concat.mp hPair with hOld | hMove
    · obtain ⟨slot, hSlots, hFound⟩ := h.located hOld
      exact ⟨slot, mem_filterMap_concat.mpr (Or.inl hSlots), hKept hFound⟩
    · obtain ⟨slot, hBuiltSlot, hFound⟩ := h.slot_of_built? hSound hTakes hMove
      exact ⟨slot, mem_filterMap_concat.mpr (Or.inr hBuiltSlot), hKept hFound⟩

end Unbroken

/-! ## Runs -/

variable {settings : Settings} {requests : List Request}

theorem publishedOnce_of_run (h : start.Sound) (hRun : Run start moves finish) :
    PublishedOnce moves finish :=
  (h.invariant PublishedOnce ⟨List.nodup_nil, by simp⟩
    (fun hSound hHolds hTakes => hHolds.take hSound hTakes) hRun).2

theorem builtOnce_of_run (h : start.Sound) (hRun : Run start moves finish) :
    BuiltOnce moves finish :=
  (h.invariant BuiltOnce ⟨List.nodup_nil, by simp⟩
    (fun hSound hHolds hTakes => hHolds.take hSound hTakes) hRun).2

theorem numbered_of_run (h : start.Sound) (hRun : Run start moves finish) :
    Numbered moves finish :=
  (h.invariant Numbered ⟨List.nodup_nil, by simp⟩
    (fun hSound hHolds hTakes => hHolds.take hSound hTakes) hRun).2

/-- Nothing is built before callers have begun. -/
theorem unbroken_create (hOn : settings.cacheEnabled = true) (requests : List Request) :
    Unbroken [] (create (Cache.create settings : Cache V) requests) := by
  have hStart : ∀ {index : Nat} {caller : Caller V},
      (create (Cache.create settings) requests).callers[index]? = some caller →
        caller.phase = .start := phase_of_create
  refine ⟨hOn, ?_, ?_, ?_, ?_, ?_, by simp, fun type => Nat.zero_le _⟩
  · -- callers that have not begun do none of this
    intro index caller hCaller
    simp [hStart hCaller]
  · intro index caller type slot hCaller _ hPhase
    rw [hStart hCaller] at hPhase
    cases hPhase
  · intro index caller type slot entry hCaller _ hPhase
    rw [hStart hCaller] at hPhase
    cases hPhase
  · intro slot entry hHeld
    -- no slot was opened
    exact absurd (slot_lt_of_content hHeld) (Nat.not_lt_zero slot)
  · intro index caller type entry hCaller _ hPhase
    rw [hStart hCaller] at hPhase
    cases hPhase

/-- **While the cache stays on**, every type has one build at most. -/
theorem unbroken_of_run (hRun : Run (create (Cache.create settings) requests) moves finish)
    (hOn : settings.cacheEnabled = true) (hKept : ∀ move ∈ moves, ¬move.SwitchesOff) :
    Unbroken moves finish := by
  have hSound := sound_create (V := V) settings requests
  -- a step needs that no slot was built for twice, so the run carries both
  refine (hSound.invariant (fun moves machine => BuiltOnce moves machine ∧
    ((∀ move ∈ moves, ¬move.SwitchesOff) → Unbroken moves machine))
    ⟨⟨List.nodup_nil, by simp⟩, fun _ => unbroken_create hOn requests⟩ ?_ hRun).2.2 hKept
  intro source moves machine move hSound ⟨hBuilt, hUnbroken⟩ hTakes
  refine ⟨hBuilt.take hSound hTakes, fun hKept => ?_⟩
  have hBefore := hUnbroken fun other hOther => hKept other (List.mem_append_left _ hOther)
  exact hBefore.take hBuilt hSound hTakes (hKept move (by simp))

/-! ## The main result -/

/--
**Callers share builds, however their steps interleave.** Nothing is published in a slot twice, no two
builds succeed for one slot, and no two builds have one number. Whoever is answered has built for itself,
having found the cache off, or is answered with what is in the slot under which its type is found at its
last step; and two callers that are answered from slots for one type are answered with one entry, unless
the table is cleared between their last steps. If the cache is on from the start and never switched off,
each type is built successfully at most once, and exactly once if any caller is answered with it.
-/
theorem builds_shared (settings : Settings) (requests : List Request) {moves : List (Move V)}
    {machine : Machine V} (hRun : Run (create (Cache.create settings) requests) moves machine) :
    (moves.filterMap Move.published?).Nodup ∧
    (moves.filterMap Move.builtSlot?).Nodup ∧
    ((moves.filterMap Move.built?).map (·.2.build)).Nodup ∧
    (∀ move ∈ moves, ∀ type entry, move.request = .resolve type →
      move.target = .answered (.ok entry) →
        move.origin = .buildAlone ∨ ∃ slot, move.Shares type slot entry ∧
          move.before.slot? type = some slot ∧ move.before.content? slot = some entry) ∧
    (∀ before one between two after type slot slot' entry entry',
      moves = before ++ one :: (between ++ two :: after) →
        one.Shares type slot entry → two.Shares type slot' entry' →
          (∀ move ∈ between, move.origin ≠ .clear) → entry = entry') ∧
    (settings.cacheEnabled = true → (∀ move ∈ moves, ¬move.SwitchesOff) → ∀ type,
      buildCount moves type ≤ 1 ∧
        ((∃ caller ∈ machine.callers, caller.request = .resolve type ∧
            ∃ entry, caller.phase = .answered (.ok entry)) → buildCount moves type = 1)) := by
  have hSound := sound_create (V := V) settings requests
  refine ⟨(publishedOnce_of_run hSound hRun).nodup, (builtOnce_of_run hSound hRun).nodup,
    (numbered_of_run hSound hRun).nodup, ?_, ?_, ?_⟩
  · -- an answer is a step of the machine that the steps before it have led to
    intro move hMove type entry hRequest hTarget
    obtain ⟨before, after, rfl⟩ := List.append_of_mem hMove
    obtain ⟨source, middle, hBefore, hTakes, -⟩ := hRun.exists_step
    rcases (hSound.run hBefore).of_answered hTakes hTarget with
      hAlone | ⟨asked, slot, hShares, hFound, hHeld⟩
    · exact Or.inl hAlone
    · obtain rfl := Request.resolve.inj (hShares.request.symm.trans hRequest)
      rw [hTakes.before]
      exact Or.inr ⟨slot, hShares, hFound, hHeld⟩
  · intro before one between two after type slot slot' entry entry' hMoves hOne hTwo hKept
    exact hSound.shares_eq (hMoves ▸ hRun) hOne hTwo hKept
  · -- who is answered has its type built, which happens no more than once
    intro hOn hKept type
    have hUnbroken := unbroken_of_run hRun hOn hKept
    refine ⟨hUnbroken.once type, ?_⟩
    rintro ⟨caller, hCaller, hRequest, entry, hPhase⟩
    obtain ⟨index, hIndex⟩ := List.mem_iff_getElem?.mp hCaller
    have hPositive := buildCount_pos_iff.mpr (hUnbroken.answered hIndex hRequest hPhase)
    exact Nat.le_antisymm (hUnbroken.once type) hPositive

end Machine

/-! ## A sample -/

namespace Sample

/-- Three callers ask for the profile of orders at the same time. -/
def trio : Machine Value :=
  .create (.create .standard) (List.replicate 3 (.resolve order))

/-- They take turns, and each of them comes to its turn fourteen times. -/
def turns : List Nat := (List.replicate 14 [0, 1, 2]).flatten

/-- In the end all three have an answer. -/
theorem answers_trio :
    (trio.follow shop turns).2.callers.map (fun caller =>
        (caller.request, caller.phase.result?.map Except.isOk)) =
      List.replicate 3 (.resolve order, some true) := by
  cbv

end Sample

namespace Machine

/-- All three are answered from one build. -/
theorem builds_shared_trio :
    Sample.trio.Run (Sample.trio.follow Sample.shop Sample.turns).1
        (Sample.trio.follow Sample.shop Sample.turns).2 ∧
      buildCount (Sample.trio.follow Sample.shop Sample.turns).1 Sample.order = 1 := by
  have hRun := run_follow Sample.shop Sample.trio Sample.turns
  refine ⟨hRun, ?_⟩
  obtain ⟨-, -, -, -, -, hOnce⟩ := builds_shared _ _ hRun
  -- nobody has asked for the cache to be switched off
  have hKept : ∀ move ∈ (Sample.trio.follow Sample.shop Sample.turns).1, ¬move.SwitchesOff := by
    intro move hMove hOff
    have hRequest := List.eq_of_mem_replicate (hRun.request_mem hMove)
    rw [hOff.1] at hRequest
    cases hRequest
  obtain ⟨-, hExactly⟩ := hOnce rfl hKept Sample.order
  have hSome : (Request.resolve Sample.order, some true) ∈
      (Sample.trio.follow Sample.shop Sample.turns).2.callers.map
        (fun caller => (caller.request, caller.phase.result?.map Except.isOk)) := by
    rw [Sample.answers_trio]
    exact List.mem_cons_self
  obtain ⟨caller, hCaller, hAnswer⟩ := List.mem_map.mp hSome
  obtain ⟨hRequest, hResult⟩ := Prod.mk.inj hAnswer
  refine hExactly ⟨caller, hCaller, hRequest, ?_⟩
  cases hPhase : caller.phase with
  | answered result =>
    cases result with
    | ok entry => exact ⟨entry, rfl⟩
    | error cause => rw [hPhase] at hResult; cases hResult
  | _ => rw [hPhase] at hResult; cases hResult

end Machine

end Introspect
