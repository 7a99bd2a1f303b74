import Introspect.Catalog
import Introspect.Session

/-!
# Workspaces

In a workspace one caller edits a catalog and works, in between, with a cache of the profiles that
are built from it. Edits go to the catalog alone: nothing tells the cache about them.

* `Edit.apply` changes a catalog.
* `Workspace.step` takes one step, and `Workspace.run` all of them.
-/

namespace Introspect

variable {V : Type}

/-- A change to a catalog. -/
inductive Edit (V : Type) where
  /-- Describes a type, in the place of what was said of it before. -/
  | insert (description : Description V)
  /-- Describes a type that has no description yet. -/
  | insertIfNew (description : Description V)
  /-- Describes a type of a family, and all that it refers to. -/
  | register (family : Family V) (type : TypeName)

/-- Changes a catalog. -/
def Edit.apply (catalog : Catalog V) : Edit V → Catalog V
  | .insert description => catalog.insert description
  | .insertIfNew description => catalog.insertIfNew description
  | .register family type => catalog.register family type

/-- What the caller of a workspace does. -/
inductive Action (V : Type) where
  | edit (edit : Edit V)
  | ask (question : Question V)
  /-- Makes an object, or changes one without asking. -/
  | place (name : String) (object : V)
  /-- Switches the cache on or off. -/
  | switch (enabled : Bool)

/-- A catalog, and a session with a cache of its profiles. -/
structure Workspace (V : Type) where
  catalog : Catalog V
  session : Session V

namespace Workspace

/-- A workspace in which nothing has been asked yet. -/
def create (catalog : Catalog V) (settings : Settings) (held : Holdings V) : Workspace V :=
  ⟨catalog, ⟨Cache.create settings, held⟩⟩

/-- The catalog as it stands, as the source of all that is built. -/
def source (workspace : Workspace V) : Source V := workspace.catalog.toSource

/-- Takes a step in the session. -/
def within (workspace : Workspace V) (step : Step V) : Option (Report V) × Workspace V :=
  let (report?, session) := workspace.session.step workspace.source step
  (report?, { workspace with session })

/-- Takes a step; a question makes a report. -/
def step (workspace : Workspace V) : Action V → Option (Report V) × Workspace V
  | .edit edit => (none, { workspace with catalog := edit.apply workspace.catalog })
  | .ask question => workspace.within (.ask question)
  | .place name object => workspace.within (.place name object)
  | .switch enabled => workspace.within (.switch enabled)

/-- Takes steps in turn: gives the reports, and the workspace as it is at the end. -/
def run (workspace : Workspace V) : List (Action V) → List (Report V) × Workspace V
  | [] => ([], workspace)
  | next :: rest =>
    let (report?, after) := workspace.step next
    let (reports, last) := after.run rest
    (report?.toList ++ reports, last)

end Workspace

end Introspect
