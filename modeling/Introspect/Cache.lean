import Introspect.Profile.Build
import Introspect.Settings

/-!
# The cache of profiles

A cache keeps the profile of a type from the first request on, until it is switched off. Each request
goes through a slot for the type: a slot is opened once, filled by the first build that succeeds, and
found in the table of slots until the table is cleared. A failed build leaves its slot empty, so that
the next request builds again.

Looking into the source may itself switch the cache off, or off and on again, while a profile is
being built; such an interruption is due at most once. A profile built across one is not handed out
while the cache is on: the request starts over.

* The steps that a request is made of come first: opening a slot, building, filling, checking.
* `Cache.resolve` is a whole request.
-/

namespace Introspect

variable {V : Type}

/-- What the next look into the source does to the cache. -/
inductive Interruption where
  /-- Switches the cache off. -/
  | disable
  /-- Switches the cache off and on again. -/
  | reset
  deriving DecidableEq, Repr

/-- A profile that was built, with the number of the build that made it. -/
structure Entry (V : Type) where
  build : Nat
  profile : Profile V

/-- The state of a cache. -/
structure Cache (V : Type) where
  settings : Settings
  /-- Whether profiles are kept at present. -/
  enabled : Bool
  /-- The content of every slot that was ever opened, by its number. -/
  slots : List (Option (Entry V))
  /-- The slot that each type is found under. -/
  table : List (TypeName × Nat)
  /-- How many builds were begun. -/
  builds : Nat
  interruption? : Option Interruption
  /-- What was reported so far, oldest first. -/
  journal : List Event

namespace Cache

/-- A cache in which nothing has been asked yet. -/
def create (settings : Settings) : Cache V :=
  { settings, enabled := settings.cacheEnabled, slots := [], table := [], builds := 0,
    interruption? := none, journal := [] }

/-- Reports some events. -/
def report (cache : Cache V) (events : List Event) : Cache V :=
  { cache with journal := cache.journal ++ events }

/-! ## Modes -/

/-- Forgets which slots types are found under. -/
def clear (cache : Cache V) : Cache V := { cache with table := [] }

/-- Switches the cache on or off; switching it off forgets all that was kept. -/
def setEnabled (cache : Cache V) (enabled : Bool) : Cache V :=
  if enabled then { cache with enabled } else { cache with enabled }.clear

/-- Looks into the source: an interruption that is due happens now. -/
def consulted (cache : Cache V) : Cache V :=
  match cache.interruption? with
  | none => cache
  | some .disable => { cache with interruption? := none }.setEnabled false
  | some .reset => ({ cache with interruption? := none }.setEnabled false).setEnabled true

/-- How many interruptions are due. -/
def dueInterruptions (cache : Cache V) : Nat := if cache.interruption?.isSome then 1 else 0

/-! ## Slots -/

/-- The content of a slot. -/
def content? (cache : Cache V) (slot : Nat) : Option (Entry V) := cache.slots[slot]?.join

/-- The slot that a type is found under. -/
def slot? (cache : Cache V) (type : TypeName) : Option Nat := cache.table.lookup type

/-- The slot of a type; a new one if the type has none. -/
def openSlot (cache : Cache V) (type : TypeName) : Nat × Cache V :=
  match cache.slot? type with
  | some slot => (slot, cache)
  | none =>
    (cache.slots.length,
      { cache with
        slots := cache.slots ++ [none]
        table := cache.table ++ [(type, cache.slots.length)] })

/-- Fills a slot that is still empty; gives what the slot then holds. -/
def fill (cache : Cache V) (slot : Nat) (entry : Entry V) : Entry V × Cache V :=
  match cache.content? slot with
  | some held => (held, cache)
  | none => (entry, { cache with slots := cache.slots.set slot (some entry) })

/-- Whether a type is found under this slot. -/
def holds (cache : Cache V) (type : TypeName) (slot : Nat) : Bool := cache.slot? type == some slot

/-- The entry that a type is found under, if it has been filled. -/
def kept? (cache : Cache V) (type : TypeName) : Option (Entry V) :=
  (cache.slot? type).bind cache.content?

/-- How many types have an entry. -/
def size (cache : Cache V) : Nat :=
  cache.table.countP fun found => (cache.content? found.2).isSome

/-! ## Builds -/

/-- Builds a profile. -/
def build (source : Source V) (type : TypeName) (cache : Cache V) :
    Except PropertyError (Entry V) × Cache V :=
  -- a build counts from its start, also one that fails
  let begun := { cache with builds := cache.builds + 1 }
  let noticed := begun.consulted.report (source.buildNotices type)
  match source.profile type with
  | .ok profile =>
    let readable := profile.readable.names.length
    let writable := profile.writable.names.length
    (.ok ⟨begun.builds, profile⟩, noticed.report [.built type readable writable])
  | .error cause => (.error cause, noticed.report [.buildFailed type cause])

/-- What a slot holds, built if it is still empty. -/
def fetch (source : Source V) (type : TypeName) (slot : Nat) (cache : Cache V) :
    Except PropertyError (Entry V) × Cache V :=
  match cache.content? slot with
  | some entry => (.ok entry, cache.report [.cacheHit type])
  | none =>
    match cache.build source type with
    | (.error cause, after) => (.error cause, after)
    | (.ok entry, after) =>
      -- the slot keeps what it holds, and that is handed out
      let (held, filled) := after.fill slot entry
      (.ok held, filled)

/-! ## Requests -/

/-- Asks for the profile of a type. -/
def resolve (source : Source V) (type : TypeName) (cache : Cache V) :
    Except PropertyError (Entry V) × Cache V :=
  if cache.enabled then
    let (slot, opened) := cache.openSlot type
    match opened.fetch source type slot with
    | (.error cause, after) => (.error cause, after)
    | (.ok entry, after) =>
      if after.holds type slot then (.ok entry, after)
      else
        -- Only an interruption takes the slot from a single caller, and then one fewer is due.
        let again := after.report [.builtAcrossReset type]
        if again.dueInterruptions < cache.dueInterruptions then again.resolve source type
        else (.ok entry, again)
  else cache.build source type
termination_by cache.dueInterruptions

/-- The outline of a cache. -/
def outline (cache : Cache V) : String :=
  Text.recordOutline "MetadataCache"
    [("config", cache.settings.outline),
     ("enabled", toString cache.enabled),
     ("len", toString cache.size),
     ("build_count", toString cache.builds)] true

end Cache

end Introspect
