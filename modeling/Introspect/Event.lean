import Introspect.Error

/-!
# Events

What the library reports about its own work, for a journal. An event is data; its level and its
wording are functions of it.
-/

namespace Introspect

/-- Something worth a line in the journal. -/
inductive Event where
  /-- A type without a description got a profile without properties. -/
  | noDescription (type : TypeName)
  /-- Getters of a property clash; the type declares the one that held until then. -/
  | ambiguousGetters (property : String) (type : TypeName)
  /-- Setters of a property clash; the type declares the one that was offered. -/
  | ambiguousSetters (property : String) (type : TypeName)
  /-- A profile was built, with so many properties to read and to write. -/
  | built (type : TypeName) (readable writable : Nat)
  /-- A profile could not be built. -/
  | buildFailed (type : TypeName) (cause : PropertyError)
  /-- A profile was found in the cache. -/
  | cacheHit (type : TypeName)
  /-- The cache was cleared while a profile was being built, so it is asked for again. -/
  | builtAcrossReset (type : TypeName)
  /-- An absent value on the way of a write was replaced by a new instance. -/
  | instantiating (type : TypeName) (property : String)
  /-- A field was left out of a copy. -/
  | skippedCopying (type : TypeName) (field : String) (cause : AccessError)
  /-- All submitted registrations were run. -/
  | autoRegistration (submissions : Nat)
  deriving DecidableEq, Repr

/-- How much an event matters. -/
inductive Level where
  | debug
  | trace
  deriving DecidableEq, Repr

/-- The word for a level. -/
def Level.word : Level → String
  | .debug => "DEBUG"
  | .trace => "TRACE"

namespace Event

/-- Events that happen on every use of the cache or of a value are traces. -/
def level : Event → Level
  | .cacheHit _ | .builtAcrossReset _ | .instantiating .. | .skippedCopying .. => .trace
  | _ => .debug

/-- The wording of an event. -/
def message : Event → String
  | .noDescription type =>
    "no description for `" ++ type.text ++ "`, building empty metadata"
  | .ambiguousGetters property type =>
    "ambiguous getters for `" ++ property ++ "` in `" ++ type.text ++ "`"
  | .ambiguousSetters property type =>
    "ambiguous setters for `" ++ property ++ "` in `" ++ type.text ++ "`"
  | .built type readable writable =>
    "built metadata for `" ++ type.text ++ "`: " ++ toString readable ++ " readable, " ++
      toString writable ++ " writable"
  | .buildFailed type cause =>
    "failed to build metadata for `" ++ type.text ++ "`: " ++ cause.message
  | .cacheHit type => "metadata cache hit for `" ++ type.text ++ "`"
  | .builtAcrossReset type =>
    "metadata of `" ++ type.text ++ "` was built across a cache reset, retrying"
  | .instantiating type property =>
    "instantiating `" ++ type.text ++ "` for `" ++ property ++ "`"
  | .skippedCopying type field cause =>
    "skipped copying `" ++ type.text ++ "::" ++ field ++ "`: " ++ cause.message
  | .autoRegistration submissions =>
    "auto registration ran " ++ toString submissions ++ " submissions"

/-- The line that an event makes in a journal. -/
def line (event : Event) : String := event.level.word ++ " " ++ event.message

end Event

end Introspect
