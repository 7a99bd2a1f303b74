import Introspect.Proofs.MemberType

/-!
# The way up to a declaring type

The search for the bindings of a declaring type goes from reference to reference, whatever is bound
on the way. So it can be taken apart: which references it follows, and what these bind one after the
other. The same references also say what becomes of a parameter that stands alone: it is replaced by
a type, or it is left as some parameter of some type on the way.

* `Ascent` — one reference on the way up.
* `Source.seekAscents` — the references that a search follows.
* `Source.Ascends` — references follow each other from one type to another.
* `Head` — what a parameter comes down to, arguments aside.
* `Source.headAt` — what the parameters of a declaring type come down to, as a subtype sees them.

Main results:

* `seekBindings_eq`: a search binds what the references bind that it follows.
* `ascends_of_seekAscents`: these lead from the subtype to the declaring type.
* `valueType_memberType_eq`: the type of a member's values, read off its head.
-/

namespace Introspect

/-- One reference on the way up: the type that makes it, the reference, and the type it names. -/
structure Ascent where
  sub : TypeName
  reference : TypeExpr
  super : TypeName
  deriving DecidableEq, Repr

/-- What a parameter comes down to, arguments aside. -/
inductive Head where
  /-- A type stands in its place. -/
  | fixed (type : TypeName)
  /-- It is left as a parameter in the scope of some type. -/
  | left (owner : TypeName) (name : String)
  deriving DecidableEq, Repr

/-- What an expression comes down to, if it is known what parameters do. -/
def TypeExpr.head (heads : String → Head) : TypeExpr → Head
  | .named type => .fixed type
  | .parameter name => heads name
  | .applied type _ => .fixed type

/-- A search finds the same wherever it tries the same. -/
theorem findSome?_congr {α β : Type} {f g : α → Option β} :
    ∀ {items : List α}, (∀ item ∈ items, f item = g item) → items.findSome? f = items.findSome? g
  | [], _ => rfl
  | item :: rest, h => by
    rw [List.findSome?_cons, List.findSome?_cons, h item List.mem_cons_self,
      findSome?_congr fun other hOther => h other (List.mem_cons_of_mem _ hOther)]

namespace Source

variable {V : Type} {source : Source V}

/-! ## The references of a search -/

/-- The references that a search for the declaring type follows, with at most so many left. -/
def seekAscents (source : Source V) (declaring : TypeName) :
    Nat → TypeName → Option (List Ascent)
  | 0, current => if current = declaring then some [] else none
  | left + 1, current =>
    if current = declaring then some []
    else
      match source.describe current with
      | none => none
      | some description =>
        description.supertypes.findSome? fun reference =>
          match reference.raw? with
          | none => none
          | some type =>
            (source.seekAscents declaring left type).map (⟨current, reference, type⟩ :: ·)

/-- What references bind one after the other. -/
def bindingsAlong (source : Source V) (outer : Bindings) (ascents : List Ascent) : Bindings :=
  ascents.foldl (fun bindings ascent =>
    source.referenceBindings bindings ascent.reference ascent.super) outer

/-- **A search binds what the references bind that it follows.** -/
theorem seekBindings_eq (source : Source V) (declaring : TypeName) :
    ∀ (left : Nat) (current : TypeName) (bindings : Bindings),
      source.seekBindings declaring left current bindings =
        (source.seekAscents declaring left current).map (source.bindingsAlong bindings)
  | 0, current, bindings => by
    rw [seekBindings, seekAscents]
    split
    · rfl
    · rfl
  | left + 1, current, bindings => by
    rw [seekBindings, seekAscents]
    split
    · rfl
    · cases source.describe current with
      | none => rfl
      | some description =>
        -- the references are tried in the same order
        simp only [List.map_findSome?]
        refine findSome?_congr fun reference _ => ?_
        cases hRaw : reference.raw? with
        | none => simp [hRaw]
        | some type =>
          simp only [Function.comp, hRaw, Option.map_map]
          rw [seekBindings_eq source declaring left]
          rfl

/-- References follow each other from one type to another. -/
inductive Ascends (source : Source V) : TypeName → List Ascent → TypeName → Prop where
  | here (type : TypeName) : Ascends source type [] type
  | step {sub super goal : TypeName} {description : Description V} {reference : TypeExpr}
      {ascents : List Ascent} (hSub : source.describe sub = some description)
      (hReference : reference ∈ description.supertypes) (hRaw : reference.raw? = some super)
      (hRest : Ascends source super ascents goal) :
      Ascends source sub (⟨sub, reference, super⟩ :: ascents) goal

/-- The references that a search follows lead to the declaring type. -/
theorem ascends_of_seekAscents {declaring : TypeName} :
    ∀ {left : Nat} {current : TypeName} {ascents : List Ascent},
      source.seekAscents declaring left current = some ascents →
        source.Ascends current ascents declaring
  | 0, current, ascents, h => by
    -- nothing is left to follow, so the search has to be there
    rw [seekAscents] at h
    split at h
    · rename_i hSame
      cases h
      exact hSame ▸ .here current
    · cases h
  | left + 1, current, ascents, h => by
    rw [seekAscents] at h
    split at h
    · rename_i hSame
      cases h
      exact hSame ▸ .here current
    -- the reference that is followed is one of the type's
    · cases hCurrent : source.describe current with
      | none =>
        rw [hCurrent] at h
        cases h
      | some description =>
        rw [hCurrent] at h
        obtain ⟨reference, hReference, hFound⟩ := List.exists_of_findSome?_eq_some h
        cases hRaw : reference.raw? with
        | none =>
          simp only [hRaw] at hFound
          cases hFound
        | some super =>
          simp only [hRaw, Option.map_eq_some_iff] at hFound
          obtain ⟨rest, hRest, rfl⟩ := hFound
          exact .step hCurrent hReference hRaw (ascends_of_seekAscents hRest)

/-! ## What parameters come down to -/

/-- The argument that a reference supplies for a parameter of the type it names. -/
def argument? (source : Source V) (reference : TypeExpr) (type : TypeName) (name : String) :
    Option TypeExpr :=
  match source.describe type with
  | none => none
  | some description =>
    ((description.parameters.map Parameter.name).zip reference.arguments).lookup name

/-- What the parameters of a type come down to behind a reference to it. A parameter without an
argument is left in the scope of that type. -/
def referenceHeads (source : Source V) (outer : String → Head) (reference : TypeExpr)
    (type : TypeName) (name : String) : Head :=
  match source.argument? reference type name with
  | none => .left type name
  | some argument => argument.head outer

/-- What the parameters of the last type come down to, with those of the first one known. -/
def headsAlong (source : Source V) (outer : String → Head) (ascents : List Ascent) :
    String → Head :=
  ascents.foldl (fun heads ascent =>
    source.referenceHeads heads ascent.reference ascent.super) outer

/-- What the parameters of the declaring type come down to, seen from `sub`. If no references lead
there, they are left where they are. -/
def headAt (source : Source V) (sub declaring : TypeName) : String → Head :=
  match source.seekAscents declaring referenceLimit sub with
  | none => .left declaring
  | some ascents => source.headsAlong (.left sub) ascents

/-- An argument may be looked up before or after a function has been applied to all of them. -/
theorem lookup_zip_map (f : TypeExpr → TypeExpr) (name : String) :
    ∀ (parameters : List Parameter) (arguments : List TypeExpr),
      ((parameters.zip arguments).map fun (parameter, argument) =>
          (parameter.name, f argument)).lookup name =
        (((parameters.map Parameter.name).zip arguments).lookup name).map f
  | [], _ => rfl
  | _ :: _, [] => rfl
  | parameter :: parameters, argument :: arguments => by
    simp only [List.zip_cons_cons, List.map_cons, List.lookup_cons]
    cases name == parameter.name with
    | true => rfl
    | false => exact lookup_zip_map f name parameters arguments

/-- What a reference binds for a parameter is the argument, with what was bound before put into it.
-/
theorem get?_referenceBindings (outer : Bindings) (reference : TypeExpr) (type : TypeName)
    (name : String) :
    (source.referenceBindings outer reference type).get? name =
      (source.argument? reference type name).map (TypeExpr.substitute outer) := by
  unfold referenceBindings argument?
  cases source.describe type with
  | none => rfl
  | some description => exact lookup_zip_map _ _ _ _

end Source

/-! ## Heads and substitution -/

/-- The expression is what the head says. -/
def Head.Fits (expr : TypeExpr) : Head → Prop
  | .fixed type => expr.raw? = some type
  | .left _ name => expr = .parameter name

namespace Source

variable {V : Type} {source : Source V}

/-- The heads say of every parameter what the bindings make of it. -/
def Heads (heads : String → Head) (bindings : Bindings) : Prop :=
  ∀ name, (heads name).Fits ((TypeExpr.parameter name).substitute bindings)

theorem heads_empty (type : TypeName) : Heads (.left type) .empty :=
  fun name => TypeExpr.substitute_empty (.parameter name)

/-- What is said of parameters alone is said of expressions. -/
theorem Heads.fits {heads : String → Head} {bindings : Bindings} (h : Heads heads bindings)
    (expr : TypeExpr) : (expr.head heads).Fits (expr.substitute bindings) := by
  cases expr with
  | named type => rw [TypeExpr.substitute]; rfl
  | parameter name => exact h name
  | applied type arguments => rw [TypeExpr.substitute]; rfl

/-- One reference binds what its heads say. -/
theorem Heads.reference {heads : String → Head} {bindings : Bindings} (h : Heads heads bindings)
    (reference : TypeExpr) (type : TypeName) :
    Heads (source.referenceHeads heads reference type)
      (source.referenceBindings bindings reference type) := by
  intro name
  unfold referenceHeads
  rw [TypeExpr.substitute, get?_referenceBindings]
  cases source.argument? reference type name with
  | none => rfl
  | some argument => exact h.fits argument

/-- References bind what their heads say, one after the other. -/
theorem Heads.along {heads : String → Head} {bindings : Bindings} (h : Heads heads bindings)
    (ascents : List Ascent) :
    Heads (source.headsAlong heads ascents) (source.bindingsAlong bindings ascents) := by
  unfold headsAlong bindingsAlong
  -- along the references, whatever was bound before the first
  induction ascents generalizing heads bindings with
  | nil => exact h
  | cons ascent rest ih => exact ih (h.reference ascent.reference ascent.super)

/-- What is bound between two types is what the heads say of it. -/
theorem heads_at (source : Source V) (sub declaring : TypeName) :
    Heads (source.headAt sub declaring) ((source.bindingsBetween sub declaring).getD .empty) := by
  -- both follow the references of one search
  unfold headAt bindingsBetween
  rw [seekBindings_eq]
  cases source.seekAscents declaring referenceLimit sub with
  | none => exact heads_empty declaring
  | some ascents => exact (heads_empty sub).along ascents

/-- The type that is behind a head: a parameter that is left is looked up in two scopes, whosesoever
it is. -/
def behind (source : Source V) (declaring sub : TypeName) : Head → TypeName
  | .fixed type => type
  | .left _ name => source.parameterBound name [declaring, sub]

/-- **The type of a member's values is the one behind its head.** -/
theorem valueType_memberType_eq (declared : TypeExpr) (declaring sub : TypeName) :
    (source.memberType declared declaring sub).valueType =
      source.behind declaring sub (declared.head (source.headAt sub declaring)) := by
  -- the expression that is put together is what its head says
  have hFits := (source.heads_at sub declaring).fits declared
  unfold memberType
  cases hHead : declared.head (source.headAt sub declaring) with
  | fixed type =>
    rw [hHead] at hFits
    have hRaw : (declared.substitute ((source.bindingsBetween sub declaring).getD .empty)).raw? =
        some type := hFits
    -- a head that is fixed is a type, so the expression is no parameter
    cases hExpr : declared.substitute ((source.bindingsBetween sub declaring).getD .empty) with
    | parameter name =>
      rw [hExpr] at hRaw
      cases hRaw
    | named other =>
      rw [hExpr] at hRaw
      exact Option.some.inj hRaw
    | applied other arguments =>
      rw [hExpr] at hRaw
      exact Option.some.inj hRaw
  | left owner name =>
    rw [hHead] at hFits
    -- a head that is left is a parameter that stands alone
    have hExpr : declared.substitute ((source.bindingsBetween sub declaring).getD .empty) =
        .parameter name := hFits
    rw [hExpr]
    rfl

end Source

end Introspect
