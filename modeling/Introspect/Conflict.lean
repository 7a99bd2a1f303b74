import Introspect.Candidate
import Introspect.Hierarchy
import Introspect.PropertyName

/-!
# Conflicts between candidates

Several methods may claim one property. Of getters the one with the narrowest return type wins; of
setters the one that takes exactly what the getter returns, or else the one with the narrowest
parameter type. Two types of which neither is the narrower are a clash.
-/

namespace Introspect

variable {V : Type}

/-- The candidates of one property, in the order in which they were met. -/
structure Claim (V : Type) where
  property : String
  first : Candidate V
  rest : List (Candidate V)

namespace Claim

/-- All candidates of the property. -/
def candidates (claim : Claim V) : List (Candidate V) := claim.first :: claim.rest

/-- Gathers candidates by the property that each of them claims, properties in the order in which
they are first met. -/
def gather (property? : Candidate V → Option String) (candidates : List (Candidate V)) :
    List (Claim V) :=
  (candidates.filterMap property?).eraseDups.filterMap fun property =>
    -- a property that is claimed has a candidate, so that no claim is lost here
    match candidates.filter (property? · == some property) with
    | [] => none
    | first :: rest => some ⟨property, first, rest⟩

end Claim

/-- Two candidates of which neither is the narrower, with the type that declares the one at fault. -/
structure Clash where
  declaring : TypeName
  first : TypeName
  second : TypeName
  deriving DecidableEq, Repr

namespace Source

/-! ## Getters -/

/-- The property that a candidate reads. -/
def getterProperty? (source : Source V) (candidate : Candidate V) : Option String :=
  if candidate.method.parameters.isEmpty && candidate.method.returns?.isSome then
    PropertyName.ofGetter? candidate.method.name (candidate.erasedReturn source == .bool)
  else none

/-- The better of two getters: the narrower one, or of two that return a truth value the later one if
its name begins with `is`. -/
def betterGetter (source : Source V) (winner candidate : Candidate V) :
    Except Clash (Candidate V) :=
  let held := winner.erasedReturn source
  let offered := candidate.erasedReturn source
  if offered = held then
    -- Overrides were dropped before, so that two equal types come from two different names.
    if offered = .bool then
      .ok (if "is".toList.isPrefixOf candidate.method.name.toList then candidate else winner)
    else .error ⟨winner.declaring, held, offered⟩
  -- a type that can be given in the place of the other is the narrower one
  else if source.isAssignable offered held then .ok winner
  else if source.isAssignable held offered then .ok candidate
  else .error ⟨winner.declaring, held, offered⟩

/-- The getter of a property. -/
def chooseGetter (source : Source V) (claim : Claim V) : Except Clash (Candidate V) :=
  claim.rest.foldlM source.betterGetter claim.first

/-! ## Setters -/

/-- The property that a candidate writes. -/
def setterProperty? (candidate : Candidate V) : Option String :=
  if candidate.method.parameters.length = 1 then PropertyName.ofSetter? candidate.method.name
  else none

/-- The better of two setters: the one with the narrower parameter, of two equal ones the later. -/
def betterSetter (source : Source V) (winner candidate : Candidate V) :
    Except Clash (Candidate V) :=
  let held := winner.erasedParameter source
  let offered := candidate.erasedParameter source
  -- equal types can be given in the place of each other, so that the later setter wins
  if source.isAssignable held offered then .ok candidate
  else if source.isAssignable offered held then .ok winner
  else .error ⟨candidate.declaring, held, offered⟩

/-- Whether a setter takes exactly what the getter returns. -/
def takesType (source : Source V) (type? : Option TypeName) (candidate : Candidate V) : Bool :=
  type? == some (candidate.erasedParameter source)

/-- The narrowest of several setters. -/
def narrowestSetter (source : Source V) (first : Candidate V) (rest : List (Candidate V)) :
    Except Clash (Candidate V) :=
  rest.foldlM source.betterSetter first

/-- The setter of a property, given the type that its getter returns if there is one. -/
def chooseSetter (source : Source V) (getterType? : Option TypeName) (claim : Claim V) :
    Except Clash (Candidate V) :=
  match claim.candidates.find? (source.takesType getterType?) with
  | some candidate => .ok candidate
  | none => source.narrowestSetter claim.first claim.rest

/-- The clash met among the setters before the first that takes what the getter returns. It is worth a
notice even where that setter wins. -/
def setterClash? (source : Source V) (getterType? : Option TypeName) (claim : Claim V) :
    Option Clash :=
  match claim.candidates.takeWhile (!source.takesType getterType? ·) with
  | [] => none
  | first :: rest =>
    match source.narrowestSetter first rest with
    | .ok _ => none
    | .error clash => some clash

end Source

end Introspect
