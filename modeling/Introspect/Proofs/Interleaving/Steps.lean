import Introspect.Cache.Interleaving
import Introspect.Proofs.Cache.Entries

/-!
# Steps of concurrent callers

What a single step can be is said once, with one case for each, and what a step changes in the cache is
derived from that. Runs are taken apart and put together at any point.

* `Acts` — the steps that a caller can take, one case for each.
* `Machine.Takes` — a step of a machine, with what it acts on.
* `Evolves` — what a step may change in a cache.

Main results:

* `takes_of_move?`: the steps of a machine are among those listed.
* `Acts.evolves`: what they may change.
* `Run.append` and `Run.exists_step`: runs can be put together, and taken apart at any step.
* `run_follow` and `run_runTogether`: callers that take turns take them in one of the orders possible.
-/

namespace Introspect

variable {V : Type}

/-- The steps that a caller of a machine can take: what it has asked for, what it was to do, what it is
to do then, and the cache afterwards. -/
inductive Acts (source : Source V) (machine : Machine V) :
    Request → Phase V → Phase V → Cache V → Prop where
  | loadsOn {type : TypeName} (on : machine.cache.enabled = true) :
      Acts source machine (.resolve type) .start .seek machine.cache
  | loadsOff {type : TypeName} (off : machine.cache.enabled = false) :
      Acts source machine (.resolve type) .start .buildAlone machine.cache
  | buildsAlone {type : TypeName} {result : Except PropertyError (Entry V)} {after : Cache V}
      (built : machine.cache.build source type = (result, after)) :
      Acts source machine (.resolve type) .buildAlone (.answered result) after
  | finds {type : TypeName} {slot : Nat} (found : machine.cache.slot? type = some slot) :
      Acts source machine (.resolve type) .seek (.look slot) machine.cache
  | misses {type : TypeName} (missing : machine.cache.slot? type = none) :
      Acts source machine (.resolve type) .seek .enter machine.cache
  | enters {type : TypeName} {slot : Nat} {after : Cache V}
      (opened : machine.cache.openSlot type = (slot, after)) :
      Acts source machine (.resolve type) .enter (.look slot) after
  | hits {type : TypeName} {slot : Nat} {entry : Entry V}
      (held : machine.cache.content? slot = some entry) :
      Acts source machine (.resolve type) (.look slot) (.confirm slot entry)
        (machine.cache.report [.cacheHit type])
  | passes {type : TypeName} {slot : Nat} (empty : machine.cache.content? slot = none) :
      Acts source machine (.resolve type) (.look slot) (.lock slot) machine.cache
  | locks {type : TypeName} {slot : Nat} (free : machine.isLocked slot = false) :
      Acts source machine (.resolve type) (.lock slot) (.lookAgain slot) machine.cache
  | hitsLate {type : TypeName} {slot : Nat} {entry : Entry V}
      (held : machine.cache.content? slot = some entry) :
      Acts source machine (.resolve type) (.lookAgain slot) (.confirm slot entry) machine.cache
  | begins {type : TypeName} {slot : Nat} (empty : machine.cache.content? slot = none) :
      Acts source machine (.resolve type) (.lookAgain slot) (.build slot) machine.cache
  | builds {type : TypeName} {slot : Nat} {entry : Entry V} {after : Cache V}
      (built : machine.cache.build source type = (.ok entry, after)) :
      Acts source machine (.resolve type) (.build slot) (.fill slot entry) after
  | fails {type : TypeName} {slot : Nat} {cause : PropertyError} {after : Cache V}
      (built : machine.cache.build source type = (.error cause, after)) :
      Acts source machine (.resolve type) (.build slot) (.answered (.error cause)) after
  | fills {type : TypeName} {slot : Nat} {entry held : Entry V} {after : Cache V}
      (filled : machine.cache.fill slot entry = (held, after)) :
      Acts source machine (.resolve type) (.fill slot entry) (.confirm slot held) after
  | confirms {type : TypeName} {slot : Nat} {entry : Entry V}
      (found : machine.cache.slot? type = some slot) :
      Acts source machine (.resolve type) (.confirm slot entry) (.answered (.ok entry))
        machine.cache
  | retries {type : TypeName} {slot : Nat} {entry : Entry V}
      (lost : machine.cache.slot? type ≠ some slot) :
      Acts source machine (.resolve type) (.confirm slot entry) .start
        (machine.cache.report [.builtAcrossReset type])
  | switchesOn :
      Acts source machine (.setEnabled true) .start .switched
        { machine.cache with enabled := true }
  | switchesOff :
      Acts source machine (.setEnabled false) .start .clear
        { machine.cache with enabled := false }
  | clears {enabled : Bool} :
      Acts source machine (.setEnabled enabled) .clear .switched machine.cache.clear

namespace Machine

variable {source : Source V} {machine : Machine V} {origin target : Phase V} {after : Cache V}

/-! ## The steps of a machine are those listed -/

/-- The steps of a caller that resolves a type are among those listed. -/
theorem acts_of_resolveStep {type : TypeName}
    (h : machine.resolveStep source type origin = some (target, after)) :
    Acts source machine (.resolve type) origin target after := by
  -- by the phase that the caller is in; where it looks at something, by what it sees
  cases origin with
  | start =>
    obtain ⟨rfl, rfl⟩ := Prod.mk.inj (Option.some.inj h)
    cases hOn : machine.cache.enabled with
    | true => exact .loadsOn hOn
    | false => exact .loadsOff hOn
  | buildAlone =>
    obtain ⟨rfl, rfl⟩ := Prod.mk.inj (Option.some.inj h)
    exact .buildsAlone rfl
  | seek =>
    rw [resolveStep] at h
    cases hSlot : machine.cache.slot? type with
    | some slot =>
      rw [hSlot] at h
      obtain ⟨rfl, rfl⟩ := Prod.mk.inj (Option.some.inj h)
      exact .finds hSlot
    | none =>
      rw [hSlot] at h
      obtain ⟨rfl, rfl⟩ := Prod.mk.inj (Option.some.inj h)
      exact .misses hSlot
  | enter =>
    obtain ⟨rfl, rfl⟩ := Prod.mk.inj (Option.some.inj h)
    exact .enters rfl
  | look slot =>
    rw [resolveStep] at h
    cases hContent : machine.cache.content? slot with
    | some entry =>
      rw [hContent] at h
      obtain ⟨rfl, rfl⟩ := Prod.mk.inj (Option.some.inj h)
      exact .hits hContent
    | none =>
      rw [hContent] at h
      obtain ⟨rfl, rfl⟩ := Prod.mk.inj (Option.some.inj h)
      exact .passes hContent
  | lock slot =>
    rw [resolveStep] at h
    cases hLocked : machine.isLocked slot with
    | true =>
      -- a caller waits for a slot that another one has locked, and takes no step
      rw [hLocked] at h
      cases h
    | false =>
      rw [hLocked] at h
      obtain ⟨rfl, rfl⟩ := Prod.mk.inj (Option.some.inj h)
      exact .locks hLocked
  | lookAgain slot =>
    rw [resolveStep] at h
    cases hContent : machine.cache.content? slot with
    | some entry =>
      rw [hContent] at h
      obtain ⟨rfl, rfl⟩ := Prod.mk.inj (Option.some.inj h)
      exact .hitsLate hContent
    | none =>
      rw [hContent] at h
      obtain ⟨rfl, rfl⟩ := Prod.mk.inj (Option.some.inj h)
      exact .begins hContent
  | build slot =>
    rw [resolveStep] at h
    rcases hBuild : machine.cache.build source type with ⟨result, built⟩
    rw [hBuild] at h
    cases result with
    | ok entry =>
      obtain ⟨rfl, rfl⟩ := Prod.mk.inj (Option.some.inj h)
      exact .builds hBuild
    | error cause =>
      obtain ⟨rfl, rfl⟩ := Prod.mk.inj (Option.some.inj h)
      exact .fails hBuild
  | fill slot entry =>
    obtain ⟨rfl, rfl⟩ := Prod.mk.inj (Option.some.inj h)
    exact .fills rfl
  | confirm slot entry =>
    rw [resolveStep] at h
    cases hHolds : machine.cache.holds type slot with
    | true =>
      rw [hHolds] at h
      obtain ⟨rfl, rfl⟩ := Prod.mk.inj (Option.some.inj h)
      exact .confirms (beq_iff_eq.mp hHolds)
    | false =>
      rw [hHolds] at h
      obtain ⟨rfl, rfl⟩ := Prod.mk.inj (Option.some.inj h)
      exact .retries fun hFound => Bool.eq_false_iff.mp hHolds (beq_iff_eq.mpr hFound)
  -- a caller that has its answer, or that came to switch the cache, takes no step here
  | clear => cases h
  | answered result => cases h
  | switched => cases h

/-- The steps of a caller that switches the cache are among those listed. -/
theorem acts_of_switchStep {enabled : Bool}
    (h : machine.switchStep enabled origin = some (target, after)) :
    Acts source machine (.setEnabled enabled) origin target after := by
  cases origin with
  | start =>
    obtain ⟨rfl, rfl⟩ := Prod.mk.inj (Option.some.inj h)
    cases enabled with
    | true => exact .switchesOn
    | false => exact .switchesOff
  | clear =>
    obtain ⟨rfl, rfl⟩ := Prod.mk.inj (Option.some.inj h)
    exact .clears
  | buildAlone | seek | enter | look | lock | lookAgain | build | fill | confirm | answered
  | switched => cases h

/-- A caller of the machine takes the step, and acts on the cache as it is. -/
structure Takes (source : Source V) (machine : Machine V) (move : Move V) : Prop where
  caller : machine.callers[move.index]? = some ⟨move.request, move.origin⟩
  before : move.before = machine.cache
  acts : Acts source machine move.request move.origin move.target move.after

/-- **The steps of a machine are among those listed.** -/
theorem takes_of_move? {index : Nat} {move : Move V}
    (h : machine.move? source index = some move) : Takes source machine move := by
  -- the machine has such a caller, and the caller a step to take
  rw [move?, Option.bind_eq_bind, Option.bind_eq_some_iff] at h
  obtain ⟨⟨request, origin⟩, hCaller, h⟩ := h
  rw [Option.bind_eq_bind, Option.bind_eq_some_iff] at h
  obtain ⟨⟨target, after⟩, hAdvance, h⟩ := h
  obtain rfl := Option.some.inj h
  refine ⟨hCaller, rfl, ?_⟩
  cases request with
  | resolve type => exact acts_of_resolveStep hAdvance
  | setEnabled enabled => exact acts_of_switchStep hAdvance

namespace Takes

variable {move : Move V}

theorem callers_self (h : Takes source machine move) :
    (machine.take move).callers[move.index]? = some ⟨move.request, move.target⟩ := by
  obtain ⟨hBounded, -⟩ := List.getElem?_eq_some_iff.mp h.caller
  exact List.getElem?_set_self hBounded

theorem callers_of_ne {index : Nat} (hOther : index ≠ move.index) :
    (machine.take move).callers[index]? = machine.callers[index]? :=
  List.getElem?_set_ne (Ne.symm hOther)

/-- A caller after a step is the one that took it, or stands where it stood. -/
theorem caller_cases (h : Takes source machine move) {index : Nat} {caller : Caller V}
    (hCaller : (machine.take move).callers[index]? = some caller) :
    index = move.index ∧ caller = ⟨move.request, move.target⟩ ∨
      index ≠ move.index ∧ machine.callers[index]? = some caller := by
  by_cases hSame : index = move.index
  · rw [hSame, h.callers_self] at hCaller
    exact Or.inl ⟨hSame, (Option.some.inj hCaller).symm⟩
  · rw [callers_of_ne hSame] at hCaller
    exact Or.inr ⟨hSame, hCaller⟩

end Takes

end Machine

/-! ## What steps change -/

/-- What a step may change in a cache. -/
structure Evolves (request : Request) (origin : Phase V) (before after : Cache V) : Prop where
  orderly : after.Orderly
  -- slots are added but never taken away, and what they hold stays
  length_le : before.slots.length ≤ after.slots.length
  keeps : ∀ {slot entry}, before.content? slot = some entry → after.content? slot = some entry
  -- only a caller that has built fills a slot
  fills : ∀ {slot entry}, before.content? slot = none → after.content? slot = some entry →
    origin = .fill slot entry
  -- a type is found under its slot until the table is cleared
  finds : origin ≠ .clear → ∀ {type slot}, before.slot? type = some slot →
    after.slot? type = some slot
  -- only a caller that did not find its type opens a slot, which is a new one
  opens : ∀ {type slot}, after.slot? type = some slot → before.slot? type = some slot ∨
    request = .resolve type ∧ origin = .enter ∧ before.slot? type = none ∧
      slot = before.slots.length
  clears : origin = .clear → after.table = []
  -- the cache is switched on request alone
  switches : after.enabled = before.enabled ∨ origin = .start ∧ request = .setEnabled after.enabled
  builds_le : before.builds ≤ after.builds

namespace Evolves

variable {source : Source V} {request : Request} {origin : Phase V} {before after : Cache V}
  {type : TypeName}

/-- A step that leaves slots and table alone may count builds, report events and switch the cache. -/
theorem of_same (hOrderly : after.Orderly) (hSlots : after.slots = before.slots)
    (hTable : after.table = before.table) (hBuilds : before.builds ≤ after.builds)
    (hOrigin : origin ≠ .clear)
    (hEnabled : after.enabled = before.enabled ∨
      origin = .start ∧ request = .setEnabled after.enabled) :
    Evolves request origin before after := by
  -- slots and table are all that the lookups read
  have hContent : after.content? = before.content? := by
    funext slot
    rw [Cache.content?, Cache.content?, hSlots]
  have hSlot : after.slot? = before.slot? := by
    funext type
    rw [Cache.slot?, Cache.slot?, hTable]
  refine ⟨hOrderly, Nat.le_of_eq (by rw [hSlots]), ?_, ?_, ?_, ?_,
    fun hClear => absurd hClear hOrigin, hEnabled, hBuilds⟩
  · intro slot entry hHeld
    rw [hContent]
    exact hHeld
  · intro slot entry hEmpty hHeld
    rw [hContent, hEmpty] at hHeld
    cases hHeld
  · intro _ type slot hFound
    rw [hSlot]
    exact hFound
  · intro type slot hFound
    rw [hSlot] at hFound
    exact Or.inl hFound

/-- Beginning a build reports and counts, and leaves slots and table alone. -/
theorem of_begins (h : Cache.Begins before after) (hOrigin : origin ≠ .clear) :
    Evolves request origin before after :=
  of_same h.orderly h.slots h.table (by rw [h.builds]; exact Nat.le_succ _) hOrigin
    (Or.inl h.enabled)

/-- Opening a slot for a type. -/
theorem of_openSlot (hBefore : before.Orderly) {slot : Nat}
    (hOpen : before.openSlot type = (slot, after)) :
    Evolves (.resolve type) .enter before after := by
  -- what the functions say of the opening, `after` being its second part
  have hOrderly := hBefore.openSlot type
  have hSlots := Cache.slot?_openSlot before type
  have hContents := Cache.content?_openSlot before type
  have hBuilds := Cache.builds_openSlot before type
  have hEnabled := Cache.enabled_openSlot before type
  -- what is found afterwards was found before, or is the slot that was opened
  have hFound : ∀ {other place}, after.slot? other = some place →
      before.slot? other = some place ∨
        other = type ∧ before.slot? type = none ∧ place = before.slots.length := by
    intro other place hPlace
    cases hType : before.slot? type with
    | some held =>
      -- the type has a slot, and nothing is opened
      rw [Cache.openSlot, hType] at hOpen
      obtain ⟨-, rfl⟩ := Prod.mk.inj hOpen
      exact Or.inl hPlace
    | none =>
      have hOther : (before.openSlot type).2.slot? other = some place := by rw [hOpen]; exact hPlace
      rcases hBefore.of_slot?_openSlot hType hOther with ⟨rfl, rfl⟩ | ⟨hOld, -⟩
      · exact Or.inr ⟨rfl, rfl, rfl⟩
      · exact Or.inl hOld
  have hLength : before.slots.length ≤ after.slots.length := by
    have hAfter : after = (before.openSlot type).2 := by rw [hOpen]
    rw [hAfter, Cache.openSlot]
    split
    · exact Nat.le_refl _
    · exact (List.length_append ▸ Nat.le_add_right _ _)
  rw [hOpen] at hOrderly hSlots hContents hBuilds hEnabled
  refine ⟨hOrderly, hLength, ?_, ?_, ?_, ?_, ?_, Or.inl hEnabled, Nat.le_of_eq hBuilds.symm⟩
  · intro place entry hHeld
    rw [hContents]
    exact hHeld
  · intro place entry hEmpty hHeld
    rw [hContents, hEmpty] at hHeld
    cases hHeld
  · intro _ other place hOld
    rw [hSlots]
    split
    · -- the slot of the type is the one that it had
      rename_i hSame
      rw [hSame] at hOld
      rw [Cache.openSlot, hOld] at hOpen
      exact congrArg some (Prod.mk.inj hOpen).1.symm
    · exact hOld
  · intro other place hPlace
    rcases hFound hPlace with hOld | ⟨rfl, hNone, hNew⟩
    · exact Or.inl hOld
    · exact Or.inr ⟨rfl, rfl, hNone, hNew⟩
  · intro hClear
    cases hClear

/-- Filling a slot. -/
theorem of_fill (hBefore : before.Orderly) {slot : Nat} {entry held : Entry V}
    (hFill : before.fill slot entry = (held, after)) :
    Evolves request (.fill slot entry) before after := by
  cases hContent : before.content? slot with
  | some content =>
    -- a slot that holds something is left as it is
    rw [Cache.fill, hContent] at hFill
    obtain ⟨-, rfl⟩ := Prod.mk.inj hFill
    exact of_same hBefore rfl rfl (Nat.le_refl _) (by simp) (Or.inl rfl)
  | none =>
    have hOrderly := hBefore.fill slot entry
    rw [hFill] at hOrderly
    rw [Cache.fill_of_empty hContent] at hFill
    obtain ⟨rfl, rfl⟩ := Prod.mk.inj hFill
    -- no slot but this one is touched
    have hPlaces : ∀ place, place ≠ slot →
        Cache.content? { before with slots := before.slots.set slot (some entry) } place =
          before.content? place := by
      intro place hOther
      rw [Cache.content?, Cache.content?, List.getElem?_set_ne (Ne.symm hOther)]
    refine ⟨hOrderly, by simp, ?_, ?_, fun _ => fun hFound => hFound, Or.inl, ?_, Or.inl rfl,
      Nat.le_refl _⟩
    · -- a slot that holds something is not this one, which was empty
      intro place kept hKept
      rw [hPlaces]
      · exact hKept
      · rintro rfl
        rw [hContent] at hKept
        cases hKept
    · -- and a slot that holds something only now is this one
      intro place new hEmpty hNew
      by_cases hSame : place = slot
      · subst hSame
        rw [Cache.content?, List.getElem?_set] at hNew
        by_cases hBounded : place < before.slots.length
        · simp [hBounded] at hNew
          rw [hNew]
        · simp [hBounded] at hNew
      · rw [hPlaces place hSame, hEmpty] at hNew
        cases hNew
    · intro hClear
      cases hClear

/-- Clearing the table leaves the slots and what they hold. -/
theorem of_clear (hBefore : before.Orderly) :
    Evolves request .clear before before.clear := by
  refine ⟨hBefore.clear, Nat.le_refl _, fun hHeld => hHeld, ?_, fun hNot => absurd rfl hNot, ?_,
    fun _ => rfl, Or.inl rfl, Nat.le_refl _⟩
  · intro slot entry hEmpty hHeld
    have hHeld : before.content? slot = some entry := hHeld
    rw [hEmpty] at hHeld
    cases hHeld
  · -- nothing is found in a table that was cleared
    intro type slot hFound
    have hFound : (none : Option Nat) = some slot := hFound
    cases hFound

end Evolves

namespace Acts

variable {source : Source V} {machine : Machine V} {request : Request} {origin target : Phase V}
  {after : Cache V}

/-- What the steps of callers change. -/
theorem evolves (h : Acts source machine request origin target after)
    (hBefore : machine.cache.Orderly) : Evolves request origin machine.cache after := by
  -- most steps only look at the cache
  have hSame : ∀ {request : Request} {origin : Phase V}, origin ≠ .clear →
      Evolves request origin machine.cache machine.cache :=
    fun hOrigin => .of_same hBefore rfl rfl (Nat.le_refl _) hOrigin (Or.inl rfl)
  -- one case for each group of steps that touch the same part of the cache
  cases h with
  | loadsOn | loadsOff | finds | misses | passes | locks | hitsLate | begins | confirms =>
    exact hSame (by simp)
  | hits | retries =>
    exact .of_same (hBefore.report _) rfl rfl (Nat.le_refl _) (by simp) (Or.inl rfl)
  | buildsAlone built | builds built | fails built =>
    exact .of_begins (hBefore.of_build built).2 (by simp)
  | enters opened => exact .of_openSlot hBefore opened
  | fills filled => exact .of_fill hBefore filled
  | switchesOn | switchesOff =>
    exact .of_same (hBefore.frame rfl rfl rfl) rfl rfl (Nat.le_refl _) (by simp)
      (Or.inr ⟨rfl, rfl⟩)
  | clears => exact .of_clear hBefore

end Acts

/-! ## Runs -/

namespace Machine

variable {source : Source V} {start middle finish : Machine V} {first second : List (Move V)}
  {move : Move V}

/-- A run can go on where another has ended. -/
theorem Run.append (h : Run start first middle) (h' : Run middle second finish) :
    Run start (first ++ second) finish := by
  -- by the second run, whose last step is the last of both
  induction h' with
  | refl =>
    rw [List.append_nil]
    exact h
  | step source run able ih =>
    rw [← List.append_assoc]
    exact .step source ih able

/-- Every step of a run is taken by a machine that the steps before have led to, and leads to a machine
that the steps after it start from. -/
theorem Run.exists_step {before after : List (Move V)}
    (h : Run start (before ++ move :: after) finish) :
    ∃ source machine, Run start before machine ∧ Takes source machine move ∧
      Run (machine.take move) after finish := by
  -- the run ends with its last step, so the induction takes steps off `after` until none is left
  generalize hAll : before ++ move :: after = all at h
  induction h generalizing after with
  | refl => simp at hAll
  | @step moves machine source index last run able ih =>
    rcases List.eq_nil_or_concat after with rfl | ⟨rest, again, rfl⟩
    · -- it is the last step
      obtain ⟨rfl, hLast⟩ := List.append_inj' hAll rfl
      obtain rfl := List.singleton_inj.mp hLast
      exact ⟨source, machine, run, takes_of_move? able, .refl⟩
    · rw [List.concat_eq_append, ← List.cons_append, ← List.append_assoc] at hAll
      obtain ⟨hRest, hLast⟩ := List.append_inj' hAll rfl
      obtain rfl := List.singleton_inj.mp hLast
      obtain ⟨source', middle, hFirst, hTakes, hSecond⟩ := ih hRest
      refine ⟨source', middle, hFirst, hTakes, ?_⟩
      rw [List.concat_eq_append]
      exact .step source hSecond able

/-- What callers have asked for does not change. -/
theorem Run.requests_eq (h : Run start first finish) :
    finish.callers.map Caller.request = start.callers.map Caller.request := by
  -- by the run, its last step last
  induction h with
  | refl => rfl
  | @step moves machine source index move run able ih =>
    -- the caller that takes the step asks for what it asked for
    obtain ⟨hBounded, hCaller⟩ := List.getElem?_eq_some_iff.mp (takes_of_move? able).caller
    rw [take, List.map_set, ← ih]
    refine List.ext_getElem? fun other => ?_
    rw [List.getElem?_set]
    split
    · rename_i hSame
      subst hSame
      simp [hBounded, hCaller]
    · rfl

/-- Steps are taken for what was requested. -/
theorem Run.request_mem {requests : List Request} {cache : Cache V}
    (h : Run (create cache requests) first finish) (hMove : move ∈ first) :
    move.request ∈ requests := by
  -- at the step in question the machine has the requests of the beginning
  obtain ⟨before, after, rfl⟩ := List.append_of_mem hMove
  obtain ⟨source, machine, hBefore, hTakes, -⟩ := h.exists_step
  have hRequests : machine.callers.map Caller.request = requests := by
    rw [hBefore.requests_eq, create, List.map_map]
    exact List.map_id requests
  rw [← hRequests]
  exact List.mem_map_of_mem (List.mem_of_getElem? hTakes.caller)

/-- The callers of a list that take their steps in its order run the machine. -/
theorem run_follow (source : Source V) (machine : Machine V) (indices : List Nat) :
    Run machine (machine.follow source indices).1 (machine.follow source indices).2 := by
  -- by the callers on the list; one that can take no step is passed over
  induction indices generalizing machine with
  | nil => exact .refl
  | cons index rest ih =>
    rw [follow]
    cases hMove : machine.move? source index with
    | none => exact ih machine
    | some move =>
      have hOne : Run machine [move] (machine.take move) := .step source .refl hMove
      exact hOne.append (ih (machine.take move))

/-- **Taking turns is one of the interleavings.** -/
theorem run_runTogether (source : Source V) (cache : Cache V) (requests : List Request) :
    ∃ moves, Run (create cache requests) moves (runTogether source cache requests) := by
  -- one round after the other, whatever machine they start from
  have hRounds : ∀ left (machine : Machine V),
      ∃ moves, Run machine moves (playRounds source left machine) := by
    intro left
    induction left with
    | zero => exact fun machine => ⟨[], .refl⟩
    | succ left ih =>
      intro machine
      rw [playRounds]
      split
      · exact ⟨[], .refl⟩
      · obtain ⟨moves, hRest⟩ := ih (machine.round source)
        exact ⟨_, (run_follow source machine _).append hRest⟩
  exact hRounds _ _

end Machine

end Introspect
