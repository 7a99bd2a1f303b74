import Introspect.Proofs.Cache.Entries
import Introspect.Workspace

/-!
# Accesses

Whatever the caller of a workspace does, its catalog and its cache only see a series of accesses:
edits, requests for single profiles, events to report, and switches. A question makes as many
requests as its answers call for; which they are depends on what the requests before have given.

* `Depot.after` and `Depot.run` — a catalog and the cache over it, after one access and after several.
* `Inquiry.accesses` and `Workspace.accesses` — the accesses that a question makes, and all actions.

Main results:

* `Depot.tidy_run`: accesses keep the cache tidy.
* `Depot.run_accesses` and `Workspace.depot_run`: a question, and a whole run, are their accesses.
-/

namespace Introspect

variable {V α : Type}

/-! ## Depots -/

/-- One thing that is done to a catalog or to the cache over it. -/
inductive Access (V : Type) where
  | edit (edit : Edit V)
  /-- Asks for the profile of a type. -/
  | request (type : TypeName)
  | report (event : Event)
  | switch (enabled : Bool)

/-- Whether the access leaves the catalog as it is, and the cache on if it is on. -/
def Access.isQuiet : Access V → Bool
  | .edit _ => false
  | .request _ => true
  | .report _ => true
  | .switch enabled => enabled

/-- A catalog and a cache of the profiles that are built from it. -/
structure Depot (V : Type) where
  catalog : Catalog V
  cache : Cache V

namespace Depot

/-- The catalog as a source. -/
def source (depot : Depot V) : Source V := depot.catalog.toSource

/-- A depot after an access. -/
def after (depot : Depot V) : Access V → Depot V
  | .edit edit => { depot with catalog := edit.apply depot.catalog }
  | .request type => { depot with cache := (depot.cache.resolve depot.source type).2 }
  | .report event => { depot with cache := depot.cache.report [event] }
  | .switch enabled => { depot with cache := depot.cache.setEnabled enabled }

/-- A depot after several accesses. -/
def run (depot : Depot V) (accesses : List (Access V)) : Depot V := accesses.foldl after depot

variable {depot : Depot V}

theorem run_cons (access : Access V) (rest : List (Access V)) :
    depot.run (access :: rest) = (depot.after access).run rest := rfl

theorem run_append (first second : List (Access V)) :
    depot.run (first ++ second) = (depot.run first).run second :=
  List.foldl_append

/-- One access keeps the cache tidy. -/
theorem tidy_after (h : depot.cache.Tidy) (access : Access V) : (depot.after access).cache.Tidy := by
  cases access with
  | edit edit => exact h
  | request type => exact (h.resolve depot.source type).1
  | report event => exact h.report [event]
  | switch enabled => exact h.setEnabled enabled

/-- **Accesses keep the cache tidy.** -/
theorem tidy_run (h : depot.cache.Tidy) (accesses : List (Access V)) :
    (depot.run accesses).cache.Tidy := by
  induction accesses generalizing depot with
  | nil => exact h
  | cons access rest ih => exact ih (tidy_after h access)

end Depot

/-! ## The accesses of a question -/

/-- The accesses that an inquiry makes on its way through a cache. -/
def Inquiry.accesses (source : Source V) : Inquiry V α → Cache V → List (Access V)
  | .done _, _ => []
  | .fail _, _ => []
  | .load type next, cache =>
    .request type ::
      match cache.resolve source type with
      | (.ok entry, after) => (next entry.profile).accesses source after
      | (.error _, _) => []
  | .consult next, cache => (next source).accesses source cache.consulted
  | .note event next, cache => .report event :: next.accesses source (cache.report [event])

namespace Depot

/-- The answer to an inquiry through the cache. -/
def answer (depot : Depot V) (inquiry : Inquiry V α) : Except PropertyError α :=
  (inquiry.run depot.source depot.cache).1

/-- The depot after an inquiry was answered through its cache. -/
def asked (depot : Depot V) (inquiry : Inquiry V α) : Depot V :=
  { depot with cache := (inquiry.run depot.source depot.cache).2 }

variable {depot : Depot V}

/-- **An inquiry is its accesses.** -/
theorem run_accesses (h : depot.cache.Tidy) (inquiry : Inquiry V α) :
    depot.run (inquiry.accesses depot.source depot.cache) = depot.asked inquiry := by
  unfold asked
  -- by the inquiry, whose next request depends on what the request before has given
  induction inquiry generalizing depot with
  | done answer => rfl
  | fail cause => rfl
  | load type next ih =>
    have hTidy := (h.resolve depot.source type).1
    rw [Inquiry.accesses, Inquiry.run, run_cons]
    rcases hResolve : depot.cache.resolve depot.source type with ⟨result, after⟩
    have hAfter : depot.after (.request type) = { depot with cache := after } := by
      rw [Depot.after, hResolve]
    rw [hResolve] at hTidy
    rw [hAfter]
    cases result with
    | ok entry => exact @ih entry.profile { depot with cache := after } hTidy
    | error cause => rfl
  | consult next ih =>
    rw [Inquiry.accesses, Inquiry.run, h.consulted]
    exact ih depot.source h
  | note event next ih =>
    exact @ih { depot with cache := depot.cache.report [event] } (h.report [event])

end Depot

/-! ## The accesses of a run -/

namespace Workspace

/-- The catalog and the cache of a workspace. -/
def depot (workspace : Workspace V) : Depot V := ⟨workspace.catalog, workspace.session.cache⟩

/-- The accesses that an action makes. -/
def accessesOf (workspace : Workspace V) : Action V → List (Access V)
  | .edit edit => [.edit edit]
  | .ask question =>
    match question.inquiry? workspace.session.cache.settings workspace.session.held with
    | none => []
    | some inquiry => inquiry.accesses workspace.source workspace.session.cache
  | .place _ _ => []
  | .switch enabled => [.switch enabled]

/-- The accesses that several actions make in turn. -/
def accesses (workspace : Workspace V) : List (Action V) → List (Access V)
  | [] => []
  | action :: rest => workspace.accessesOf action ++ (workspace.step action).2.accesses rest

variable {workspace : Workspace V}

/-- An action is its accesses. -/
theorem depot_step (h : workspace.session.cache.Tidy) (action : Action V) :
    (workspace.step action).2.depot = workspace.depot.run (workspace.accessesOf action) := by
  cases action with
  | edit edit => rfl
  | ask question =>
    unfold accessesOf step within Session.step Session.ask
    dsimp only
    cases question.inquiry? workspace.session.cache.settings workspace.session.held with
    | none => rfl
    | some inquiry => exact (@Depot.run_accesses V _ workspace.depot h inquiry).symm
  | place name object => rfl
  | switch enabled => rfl

/-- **A run is its accesses**, as far as the catalog and the cache are concerned. -/
theorem depot_run (h : workspace.session.cache.Tidy) (actions : List (Action V)) :
    (workspace.run actions).2.depot = workspace.depot.run (workspace.accesses actions) := by
  -- along the actions; the cache is tidy before each of them
  induction actions generalizing workspace with
  | nil => rfl
  | cons action rest ih =>
    have hStep := depot_step h action
    have hTidy : (workspace.step action).2.depot.cache.Tidy := by
      rw [hStep]
      exact Depot.tidy_run h _
    rw [accesses, Depot.run_append, ← hStep]
    exact ih hTidy

end Workspace

end Introspect
