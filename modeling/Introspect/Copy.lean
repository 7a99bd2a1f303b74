import Introspect.Inquiry

/-!
# Copying field by field

All fields of a type and its superclasses are copied from one object to another, constants left out.
A field that cannot be read from the one or written to the other is skipped.
-/

namespace Introspect.Source

variable {V : Type}

/-- A copy in progress: how many fields were copied, the target as it is, and what was reported. -/
structure CopyState (V : Type) where
  copied : Nat
  target : V
  events : List Event

/-- Copies one field. -/
def copyField (origin : V) (state : CopyState V) (declared : TypeName × Field V) : CopyState V :=
  let accessor := Accessor.ofField declared.1 declared.2
  let skip (target : V) (cause : AccessError) : CopyState V :=
    { state with
      target
      events := state.events ++ [.skippedCopying declared.1 declared.2.name cause] }
  match accessor.get origin with
  | .error cause => skip state.target cause
  | .ok value =>
    match accessor.set state.target value with
    | (target, .ok ()) => { state with copied := state.copied + 1, target }
    -- the target stays as a failed writer has left it
    | (target, .error cause) => skip target cause

/-- Copies the fields of a type and its superclasses. -/
def copyFields (source : Source V) (type : TypeName) (origin target : V) : CopyState V :=
  ((source.chainFields type).filter (!·.2.isConstant)).foldl (copyField origin) ⟨0, target, []⟩

end Introspect.Source

namespace Introspect.Inquiry

variable {V : Type}

/-- Copies the fields of a type: gives how many were copied, and the target afterwards. The root of
all classes has no fields and needs no look into the source. -/
def copyFields (type : TypeName) (origin target : V) : Inquiry V (Nat × V) :=
  if type = .object then .done (0, target)
  else
    .consult fun source =>
      let state := source.copyFields type origin target
      notes state.events (.done (state.copied, state.target))

end Introspect.Inquiry
