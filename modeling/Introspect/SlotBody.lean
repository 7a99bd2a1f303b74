import Introspect.Value

/-!
# Bodies over slots

Bodies that read and write the slots of an object. They fail on an instance that is not made of
slots, naming the type that they were written for.
-/

namespace Introspect.SlotBody

/-- What a writer takes. -/
inductive Takes where
  /-- Anything, present or absent. -/
  | anything
  /-- A value of one shape; where that is allowed it may be absent. A refusal names the type. -/
  | only (shape : Shape) (nullable : Bool) (expected : TypeName)

/-- What is stored for a written value. -/
def Takes.take : Takes → Option Value → Except AccessError (Option Value)
  | .anything, value => .ok value
  | .only shape true expected, value => shape.takeOptional expected value
  | .only shape false expected, value => (shape.take expected value).map some

/-- Reads a slot; an empty slot and a missing one are absent. -/
def reader (owner : TypeName) (slot : String) : Reader Value
  | .slots entries => .ok (namedValue entries slot)
  | _ => .error (.instanceMismatch owner)

/-- Writes a slot. -/
def writer (owner : TypeName) (slot : String) (takes : Takes) : Writer Value
  | .slots entries, value =>
    match takes.take value with
    | .ok stored => (.slots (insertNamed entries slot stored), .ok ())
    | .error cause => (.slots entries, .error cause)
  | other, _ => (other, .error (.instanceMismatch owner))

/-- A body that never reads. -/
def failingReader (member : String) : Reader Value := fun _ => .error (.unbound member)

/-- A body that never writes. -/
def failingWriter (member : String) : Writer Value := fun object _ =>
  (object, .error (.unbound member))

end Introspect.SlotBody
