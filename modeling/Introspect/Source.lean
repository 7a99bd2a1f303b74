import Introspect.Description

/-!
# Sources of descriptions

A source describes finitely many types. Its supertype references may form cycles and may name types
that it does not describe; every walk over it visits a type at most once, so it ends.

* `Source.walk` follows references breadth first and gives the described types it meets.
* `Source.superclassChain` follows superclasses only, up to the root of all classes.
* `Source.methodOwners` gives the types whose methods a type has: each class of its chain, followed
  by the interfaces of that class.
-/

namespace Introspect

variable {V : Type}

/-- A provider of descriptions. -/
structure Source (V : Type) where
  describe : TypeName → Option (Description V)
  /-- A list that holds every described type. -/
  known : List TypeName
  mem_known : ∀ type, (describe type).isSome → type ∈ known

/-- A type with its description. -/
abbrev Described (V : Type) := TypeName × Description V

namespace Source

/-- How many described types have not been visited, which bounds what is left of a walk. -/
def unvisited (source : Source V) (visited : List TypeName) : Nat :=
  source.known.countP (· ∉ visited)

/-- A test that holds less often than another, and fails for a member that passes the other, counts
fewer. -/
theorem countP_lt_countP {α : Type} {p q : α → Bool} {items : List α} {a : α}
    (imp : ∀ x, p x = true → q x = true) (mem : a ∈ items) (passes : q a = true)
    (fails : p a = false) : items.countP p < items.countP q := by
  obtain ⟨before, after, rfl⟩ := List.append_of_mem mem
  have left : before.countP p ≤ before.countP q := List.countP_mono_left fun x _ => imp x
  have right : after.countP p ≤ after.countP q := List.countP_mono_left fun x _ => imp x
  simp only [List.countP_append, List.countP_cons, passes, fails]
  simp
  omega

/-- Visiting a described type leaves fewer to visit. -/
theorem unvisited_cons_lt (source : Source V) {visited : List TypeName} {type : TypeName}
    {description : Description V} (fresh : type ∉ visited)
    (described : source.describe type = some description) :
    source.unvisited (type :: visited) < source.unvisited visited := by
  have mem : type ∈ source.known := source.mem_known type (by rw [described]; rfl)
  exact countP_lt_countP (by simp) mem (by simpa using fresh) (by simp)

/-- Visiting more leaves no more to visit. -/
theorem unvisited_append_le (source : Source V) (more visited : List TypeName) :
    source.unvisited (more ++ visited) ≤ source.unvisited visited :=
  List.countP_mono_left fun x _ => by simp

/-- The described types met on the way from the pending ones along the references of `next`, each
once, nearer ones first. -/
def walk (source : Source V) (next : Description V → List TypeName)
    (visited pending : List TypeName) : List (Described V) :=
  match pending with
  | [] => []
  | type :: rest =>
    if _ : type ∈ visited then source.walk next visited rest
    else
      match _ : source.describe type with
      | none => source.walk next visited rest
      | some description =>
        -- the references of a visited type wait behind what is pending, so that nearer types come
        -- first
        (type, description) :: source.walk next (type :: visited) (rest ++ next description)
termination_by (source.unvisited visited, pending.length)
decreasing_by
  -- a type that is passed over makes what is pending shorter, one that is visited leaves fewer to
  -- visit
  · exact Prod.Lex.right _ (Nat.lt_succ_self _)
  · exact Prod.Lex.right _ (Nat.lt_succ_self _)
  · exact Prod.Lex.left _ _ (source.unvisited_cons_lt ‹_› ‹_›)

/-- A class and its superclasses, up to the first that is the root, not described or already
visited. -/
def superclassChain (source : Source V) (visited : List TypeName) (type : TypeName) :
    List (Described V) :=
  if _ : type = .object ∨ type ∈ visited then []
  else
    match _ : source.describe type with
    | none => []
    | some description =>
      (type, description) ::
        match description.superclassName? with
        | none => []
        | some superclass => source.superclassChain (type :: visited) superclass
termination_by source.unvisited visited
decreasing_by exact source.unvisited_cons_lt (not_or.mp ‹_›).2 ‹_›

/-- The walk over interfaces from one class of a chain; the class itself counts as visited. -/
def interfacesOf (source : Source V) (visited : List TypeName) (type : TypeName)
    (description : Description V) : List (Described V) :=
  source.walk Description.interfaceNames (type :: visited) description.interfaceNames

/-- The types whose methods a class has: each class of the chain before the first one that is the
root, not described or visited before, and after it the interfaces that it leads to. -/
def methodOwners (source : Source V) (visited : List TypeName) (type : TypeName) :
    List (Described V) :=
  if _ : type = .object ∨ type ∈ visited then []
  else
    match _ : source.describe type with
    | none => []
    | some description =>
      let interfaces := source.interfacesOf visited type description
      (type, description) :: interfaces ++
        match description.superclassName? with
        | none => []
        | some superclass =>
          -- the interfaces count as visited, so that the climb ends at a class that was met as one
          -- of them
          source.methodOwners (interfaces.map Prod.fst ++ type :: visited) superclass
termination_by source.unvisited visited
decreasing_by
  exact Nat.lt_of_le_of_lt (source.unvisited_append_le _ _)
    (source.unvisited_cons_lt (not_or.mp ‹_›).2 ‹_›)

end Source

end Introspect
