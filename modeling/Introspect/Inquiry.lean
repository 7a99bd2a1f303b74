import Introspect.Cache

/-!
# Inquiries

An inquiry is a computation that asks for profiles of types, and may look into the source of
descriptions, before it gives its answer. It does not know where profiles come from.

* `Inquiry.eval` answers it from a source alone: every profile is built afresh.
* `Inquiry.run` answers it through a cache, and gives the cache as it is afterwards.
-/

namespace Introspect

/-- A computation over live values `V` that gives an answer of type `α`. -/
inductive Inquiry (V α : Type) : Type where
  /-- The answer is known. -/
  | done (answer : α)
  /-- There is no answer. -/
  | fail (cause : PropertyError)
  /-- Asks for the profile of a type and goes on with it. -/
  | load (type : TypeName) (next : Profile V → Inquiry V α)
  /-- Looks into the source and goes on with it. -/
  | consult (next : Source V → Inquiry V α)
  /-- Reports an event and goes on. -/
  | note (event : Event) (next : Inquiry V α)

namespace Inquiry

variable {V α β : Type}

/-- Goes on with the answer of an inquiry. -/
def bind : Inquiry V α → (α → Inquiry V β) → Inquiry V β
  | .done answer, next => next answer
  | .fail cause, _ => .fail cause
  | .load type rest, next => .load type fun profile => (rest profile).bind next
  | .consult rest, next => .consult fun source => (rest source).bind next
  | .note event rest, next => .note event (rest.bind next)

instance : Monad (Inquiry V) where
  pure := .done
  bind := bind

/-- The answer that is known, or the failure. -/
def ofExcept : Except PropertyError α → Inquiry V α
  | .ok answer => .done answer
  | .error cause => .fail cause

/-- The profile of a type. -/
def profile (type : TypeName) : Inquiry V (Profile V) := .load type .done

/-- Reports events in order. -/
def notes (events : List Event) (next : Inquiry V α) : Inquiry V α := events.foldr .note next

/-- Answers an inquiry from a source alone. -/
def eval (source : Source V) : Inquiry V α → Except PropertyError α
  | .done answer => .ok answer
  | .fail cause => .error cause
  | .load type next =>
    match source.profile type with
    | .ok profile => (next profile).eval source
    | .error cause => .error cause
  | .consult next => (next source).eval source
  | .note _ next => next.eval source

/-- Answers an inquiry through a cache. -/
def run (source : Source V) : Inquiry V α → Cache V → Except PropertyError α × Cache V
  | .done answer, cache => (.ok answer, cache)
  | .fail cause, cache => (.error cause, cache)
  | .load type next, cache =>
    match cache.resolve source type with
    | (.ok entry, after) => (next entry.profile).run source after
    | (.error cause, after) => (.error cause, after)
  | .consult next, cache => (next source).run source cache.consulted
  | .note event next, cache => next.run source (cache.report [event])

end Inquiry

end Introspect
