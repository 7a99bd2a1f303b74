import Introspect.Cache

/-!
# Concurrent callers of a cache

Several callers may ask a cache for profiles, and switch it on and off, at the same time. Each caller
goes through steps that nothing interrupts, and the steps of different callers interleave in any
order. A slot has a lock that is held from the second look into it until it is filled or the build
has failed; a caller that finds it held waits.

* `Machine.move?` is the next step of one caller, and `Machine.take` is what it leaves behind.
* `Machine.Run` is any interleaving of such steps.
* `Machine.runTogether` lets all callers take turns until all are finished.
-/

namespace Introspect

variable {V : Type}

/-- What a caller asks of a cache. -/
inductive Request where
  /-- The profile of a type. -/
  | resolve (type : TypeName)
  /-- To be switched on or off. -/
  | setEnabled (enabled : Bool)
  deriving DecidableEq, Repr

/-- What a caller does next, or how it ended. -/
inductive Phase (V : Type) where
  /-- Looks whether the cache is on, or stores that it is on or off. -/
  | start
  /-- Builds a profile for itself. -/
  | buildAlone
  /-- Looks for the slot of the type. -/
  | seek
  /-- Opens a slot, unless another caller has opened one. -/
  | enter
  /-- Looks into the slot. -/
  | look (slot : Nat)
  /-- Takes the lock of the slot, or waits for it. -/
  | lock (slot : Nat)
  /-- Looks into the slot again, holding the lock. -/
  | lookAgain (slot : Nat)
  /-- Builds the profile, holding the lock. -/
  | build (slot : Nat)
  /-- Fills the slot and gives the lock back. -/
  | fill (slot : Nat) (entry : Entry V)
  /-- Checks whether the type is still found under the slot. -/
  | confirm (slot : Nat) (entry : Entry V)
  /-- Clears the table, the cache being off. -/
  | clear
  /-- Has the answer. -/
  | answered (result : Except PropertyError (Entry V))
  /-- Has switched the cache. -/
  | switched

namespace Phase

/-- Whether a caller in this phase holds the lock of a slot. -/
def holdsLock (slot : Nat) : Phase V → Bool
  | .lookAgain held | .build held | .fill held _ => held == slot
  | _ => false

/-- Whether a caller in this phase is done. -/
def isFinal : Phase V → Bool
  | .answered _ | .switched => true
  | _ => false

/-- Whether the next step of a caller in this phase may change the table of slots. -/
def entersTable : Phase V → Bool
  | .enter | .clear => true
  | _ => false

/-- The answer of a caller in this phase. -/
def result? : Phase V → Option (Except PropertyError (Entry V))
  | .answered result => some result
  | _ => none

end Phase

/-- A caller with its request. -/
structure Caller (V : Type) where
  request : Request
  phase : Phase V

/-- A step that a caller takes. -/
structure Move (V : Type) where
  /-- Whose step it is. -/
  index : Nat
  request : Request
  /-- What the caller was to do next, and what it is to do next then. -/
  origin : Phase V
  target : Phase V
  /-- The cache before the step and after it. -/
  before : Cache V
  after : Cache V

/-- A cache and its callers. -/
structure Machine (V : Type) where
  cache : Cache V
  callers : List (Caller V)

namespace Machine

/-- A cache whose callers have not begun. -/
def create (cache : Cache V) (requests : List Request) : Machine V :=
  ⟨cache, requests.map (⟨·, .start⟩)⟩

/-- Whether some caller holds the lock of a slot. -/
def isLocked (machine : Machine V) (slot : Nat) : Bool :=
  machine.callers.any (·.phase.holdsLock slot)

/-- One step towards the profile of a type; nothing for a caller that waits or is done. -/
def resolveStep (source : Source V) (machine : Machine V) (type : TypeName) :
    Phase V → Option (Phase V × Cache V)
  -- nothing later looks again whether the cache is on
  | .start => some (if machine.cache.enabled then .seek else .buildAlone, machine.cache)
  | .buildAlone =>
    let (result, after) := machine.cache.build source type
    some (.answered result, after)
  | .seek =>
    match machine.cache.slot? type with
    | some slot => some (.look slot, machine.cache)
    | none => some (.enter, machine.cache)
  | .enter =>
    -- a slot that another caller has opened in the meantime is found here
    let (slot, after) := machine.cache.openSlot type
    some (.look slot, after)
  | .look slot =>
    match machine.cache.content? slot with
    | some entry => some (.confirm slot entry, machine.cache.report [.cacheHit type])
    | none => some (.lock slot, machine.cache)
  | .lock slot =>
    if machine.isLocked slot then none else some (.lookAgain slot, machine.cache)
  | .lookAgain slot =>
    -- whoever held the lock before may have filled the slot
    match machine.cache.content? slot with
    | some entry => some (.confirm slot entry, machine.cache)
    | none => some (.build slot, machine.cache)
  | .build slot =>
    match machine.cache.build source type with
    | (.ok entry, after) => some (.fill slot entry, after)
    -- the slot stays empty, and its lock is free again
    | (.error cause, after) => some (.answered (.error cause), after)
  | .fill slot entry =>
    let (held, after) := machine.cache.fill slot entry
    some (.confirm slot held, after)
  | .confirm slot entry =>
    if machine.cache.holds type slot then some (.answered (.ok entry), machine.cache)
    -- the table was cleared since the slot was found in it: the request starts over
    else some (.start, machine.cache.report [.builtAcrossReset type])
  | .clear | .answered _ | .switched => none

/-- One step towards switching the cache. -/
def switchStep (machine : Machine V) (enabled : Bool) : Phase V → Option (Phase V × Cache V)
  -- storing that the cache is off and clearing the table are two steps
  | .start => some (if enabled then .switched else .clear, { machine.cache with enabled })
  | .clear => some (.switched, machine.cache.clear)
  | _ => none

/-- One step towards what was requested; nothing for a caller that waits or is done. -/
def advance (source : Source V) (machine : Machine V) :
    Request → Phase V → Option (Phase V × Cache V)
  | .resolve type, phase => machine.resolveStep source type phase
  | .setEnabled enabled, phase => machine.switchStep enabled phase

/-- The next step of a caller; nothing if there is no such caller, or it waits, or it is done. -/
def move? (source : Source V) (machine : Machine V) (index : Nat) : Option (Move V) := do
  let caller ← machine.callers[index]?
  let (target, after) ← machine.advance source caller.request caller.phase
  return ⟨index, caller.request, caller.phase, target, machine.cache, after⟩

/-- What a step leaves behind. -/
def take (machine : Machine V) (move : Move V) : Machine V :=
  ⟨move.after, machine.callers.set move.index ⟨move.request, move.target⟩⟩

/-! ## Interleavings -/

/-- From `start` the steps lead to a machine, in an order in which callers can take them. The source
may be another one at each step. -/
inductive Run (start : Machine V) : List (Move V) → Machine V → Prop where
  | refl : Run start [] start
  | step {moves : List (Move V)} {machine : Machine V} (source : Source V) {index : Nat}
      {move : Move V} (run : Run start moves machine)
      (able : machine.move? source index = some move) :
      Run start (moves ++ [move]) (machine.take move)

/-- Lets the callers of a list take one step each, in its order, and notes the steps; a caller that
waits or is done is passed over. -/
def follow (source : Source V) (machine : Machine V) : List Nat → List (Move V) × Machine V
  | [] => ([], machine)
  | index :: rest =>
    match machine.move? source index with
    | none => machine.follow source rest
    | some move =>
      let (moves, last) := (machine.take move).follow source rest
      (move :: moves, last)

/-! ## Taking turns -/

/-- Whether a caller gets a turn in a round. The table of slots is changed by one caller at a time, the
first that is about to; the others wait for another round. -/
def takesTurn (machine : Machine V) (index : Nat) : Bool :=
  match machine.callers[index]? with
  | none => false
  | some caller =>
    !caller.phase.entersTable ||
      machine.callers.findIdx? (·.phase.entersTable) == some index

/-- Lets every caller that can take one step, and gets a turn, do so, in order. -/
def round (source : Source V) (machine : Machine V) : Machine V :=
  (machine.follow source ((List.range machine.callers.length).filter machine.takesTurn)).2

/-- Whether all callers are done. -/
def isDone (machine : Machine V) : Bool := machine.callers.all (·.phase.isFinal)

/-- Plays rounds until all callers are done, so many at most. -/
def playRounds (source : Source V) : Nat → Machine V → Machine V
  | 0, machine => machine
  | left + 1, machine =>
    if machine.isDone then machine else playRounds source left (machine.round source)

/-- How many rounds callers may need: one request takes ten steps at most, an interruption makes
everyone start over, and they wait for each other at the table and at the slots. -/
def roundLimit (callers : Nat) : Nat := 20 * (callers + 1)

/-- Lets callers take turns from the start until all are done. -/
def runTogether (source : Source V) (cache : Cache V) (requests : List Request) : Machine V :=
  playRounds source (roundLimit requests.length) (create cache requests)

/-- The answers of the callers that asked for a profile. -/
def results (machine : Machine V) : List (Except PropertyError (Entry V)) :=
  machine.callers.filterMap (·.phase.result?)

end Machine

end Introspect
