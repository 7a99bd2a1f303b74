import Introspect.Catalog
import Introspect.Event

/-!
# Submitted registrations

Types can be submitted for registration where they are declared, and are then all registered at
once. A flag is submitted along with them: a described type with nothing in it, whose presence in a
catalog says that the submissions were run on it. In which order they come is left to the platform.
-/

namespace Introspect

variable {V : Type}

/-- What is submitted for registration. -/
inductive Submission where
  /-- The flag. -/
  | flag
  /-- A type, with all that it refers to. -/
  | type (type : TypeName)
  deriving DecidableEq, Repr

namespace Catalog

/-- The type that marks a catalog in which the submissions have been run. -/
def registrationFlag : TypeName := ⟨"$auto_register"⟩

/-- Runs one submission. -/
def submit (family : Family V) (catalog : Catalog V) : Submission → Catalog V
  | .flag => catalog.insertIfNew (.plain registrationFlag .concrete)
  | .type type => catalog.register family type

/-- Runs every submission, unless the flag is there already; gives what there is to report and the
catalog afterwards. -/
def autoRegister (family : Family V) (submitted : List Submission) (catalog : Catalog V) :
    List Event × Catalog V :=
  -- the flag is looked for once, before the first submission
  if catalog.contains registrationFlag then ([], catalog)
  else ([.autoRegistration submitted.length], submitted.foldl (submit family) catalog)

end Catalog

end Introspect
