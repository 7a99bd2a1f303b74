import Introspect.MemberType

/-!
# Candidate methods

The methods that may become accessors of a type: those of its classes and interfaces, in the order in
which they are met. Of methods with one erased signature only the first counts, so that an override
hides what it overrides.
-/

namespace Introspect

variable {V : Type}

/-- A method with the type that declares it. -/
structure Candidate (V : Type) where
  declaring : TypeName
  method : Method V

namespace Candidate

/-- The return type without its arguments; a method that returns nothing counts as `object`. -/
def erasedReturn (source : Source V) (candidate : Candidate V) : TypeName :=
  match candidate.method.returns? with
  | some type => source.erase type candidate.declaring
  | none => .object

/-- The parameter types without their arguments. -/
def erasedParameters (source : Source V) (candidate : Candidate V) : List TypeName :=
  candidate.method.parameters.map fun type => source.erase type candidate.declaring

/-- The first parameter type without its arguments; a method without parameters counts as taking
`object`. -/
def erasedParameter (source : Source V) (candidate : Candidate V) : TypeName :=
  (candidate.erasedParameters source).head?.getD .object

/-- The key under which signatures count as one: `returned#name:first,second`, with the erased types
spelled out. -/
def signatureKey (source : Source V) (candidate : Candidate V) : String :=
  -- nothing stands before the number sign for a method that returns nothing
  let returned :=
    match candidate.method.returns? with
    | some _ => (candidate.erasedReturn source).text
    | none => ""
  let parameters := (candidate.erasedParameters source).map TypeName.text
  returned ++ "#" ++ candidate.method.name ++
    (if parameters.isEmpty then "" else ":" ++ ",".intercalate parameters)

end Candidate

/-- Keeps the first item of every key that has not been seen. -/
def keepFirst {α : Type} (key : α → String) (seen : List String) : List α → List α
  | [] => []
  | item :: rest =>
    if key item ∈ seen then keepFirst key seen rest
    else item :: keepFirst key (key item :: seen) rest

namespace Source

/-- The methods of a type that are no bridges, with the type that declares them. -/
def ownCandidates (owner : Described V) : List (Candidate V) :=
  (owner.2.methods.filter (!·.isBridge)).map (⟨owner.1, ·⟩)

/-- The candidate methods of a type, first of each signature. -/
def candidates (source : Source V) (type : TypeName) : List (Candidate V) :=
  keepFirst (·.signatureKey source) [] ((source.methodOwners [] type).flatMap ownCandidates)

end Source

end Introspect
