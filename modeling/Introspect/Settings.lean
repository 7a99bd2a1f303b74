import Introspect.Json
import Introspect.Text.Outline

/-!
# Settings

Two switches: whether profiles are kept once they are built, and whether underscores in the segments
of a path are ignored when names are looked up. `Settings.parse` reads them from JSON, as an object
with the switches by name or as an array with the switches in order.
-/

namespace Introspect

/-- The switches of a cache. -/
structure Settings where
  /-- Profiles are kept once they are built. -/
  cacheEnabled : Bool
  /-- Underscores in paths are ignored when names are looked up. -/
  camelCase : Bool
  deriving DecidableEq, Repr

namespace Settings

/-- Profiles are kept, and underscores count. -/
def standard : Settings := { cacheEnabled := true, camelCase := false }

/-- The switch that a member of an object sets; there may be none, or one, of each name. -/
def switch? (members : List (Option String × Json)) (name : String) (default : Bool) :
    Option Bool :=
  match members.filter (·.1 == some name) with
  | [] => some default
  | [(_, .bool value)] => some value
  | _ => none

/-- The settings in an object: other members are ignored, though their names must be texts. -/
def ofMembers? (members : List (Option String × Json)) : Option Settings := do
  if members.any (·.1.isNone) then none
  let cacheEnabled ← switch? members "cache_enabled" standard.cacheEnabled
  let camelCase ← switch? members "camel_case_mapping" standard.camelCase
  return { cacheEnabled, camelCase }

/-- The settings in a JSON value. -/
def ofJson? : Json → Option Settings
  | .object members => ofMembers? members
  | .array [] => some standard
  | .array [.bool cacheEnabled] => some { standard with cacheEnabled }
  | .array [.bool cacheEnabled, .bool camelCase] => some { cacheEnabled, camelCase }
  | _ => none

/-- Reads settings from a JSON text. -/
def parse (text : String) : Option Settings := Json.parse text >>= ofJson?

/-- The outline of the settings. -/
def outline (settings : Settings) : String :=
  Text.recordOutline "ReflectionConfig"
    [("cache_enabled", toString settings.cacheEnabled),
     ("camel_case_mapping", toString settings.camelCase)] false

end Settings

end Introspect
