import Introspect.TypeExpr

/-!
# What can go wrong

`AccessError` is the failure of one read or write of a member. `PropertyError` is the failure of a
question about a type or of an access along a path. Each cause has one wording.
-/

namespace Introspect

/-! ## Reading and writing a member -/

/-- Why a read or a write of one member failed. -/
inductive AccessError where
  /-- The instance is of another type than the member's. -/
  | instanceMismatch (expected : TypeName)
  /-- The written value is of another type than the member takes. -/
  | valueMismatch (expected : TypeName)
  /-- An absent value was written into a member that must hold one. -/
  | absentValue (expected : TypeName)
  /-- The member is described, but nothing reads or writes it. -/
  | unbound (member : String)
  deriving DecidableEq, Repr

/-- The wording of a failed read or write. -/
def AccessError.message : AccessError → String
  | .instanceMismatch expected => "instance is not a `" ++ expected.text ++ "`"
  | .valueMismatch expected => "value is not a `" ++ expected.text ++ "`"
  | .absentValue expected => "cannot write an absent value into `" ++ expected.text ++ "`"
  | .unbound member => "`" ++ member ++ "` has no bound body"

/-! ## Properties and paths -/

/-- The two ways to use a property. -/
inductive Direction where
  | getter
  | setter
  deriving DecidableEq, Repr

/-- The word for a direction. -/
def Direction.word : Direction → String
  | .getter => "getter"
  | .setter => "setter"

/-- Why a question about a type, or an access along a path, failed. -/
inductive PropertyError where
  /-- Two getters of a property return types of which neither is the narrower. -/
  | ambiguousGetter (property : String) (type first second : TypeName)
  /-- Two setters of a property take types of which neither is the narrower. -/
  | ambiguousSetter (property : String) (type first second : TypeName)
  /-- The type has no such property in this direction. -/
  | noAccessor (direction : Direction) (property : String) (type : TypeName)
  /-- No instance of the type can be made. -/
  | noDefaultConstructor (type : TypeName)
  /-- A value can be followed along names only, not into an index. -/
  | indexedValue (segment : String)
  /-- Reading or writing a property failed. -/
  | access (property : String) (cause : AccessError)
  deriving DecidableEq, Repr

namespace PropertyError

/-- Whether the description of a type, and not the question, is at fault. -/
def isAmbiguous : PropertyError → Bool
  | .ambiguousGetter .. => true
  | .ambiguousSetter .. => true
  | _ => false

/-- The wording of a failure. -/
def message : PropertyError → String
  | .ambiguousGetter property type first second =>
    "illegal overloaded getter for property `" ++ property ++ "` in `" ++ type.text ++
      "`: return types `" ++ first.text ++ "` and `" ++ second.text ++ "` are ambiguous"
  | .ambiguousSetter property type first second =>
    "ambiguous setters for property `" ++ property ++ "` in `" ++ type.text ++
      "` with parameter types `" ++ first.text ++ "` and `" ++ second.text ++ "`"
  | .noAccessor direction property type =>
    "there is no " ++ direction.word ++ " for property named `" ++ property ++ "` in `" ++
      type.text ++ "`"
  | .noDefaultConstructor type => "there is no default constructor for `" ++ type.text ++ "`"
  | .indexedValue segment =>
    "indexed segment `" ++ segment ++ "` cannot be traversed on a live object"
  | .access property cause => "accessor `" ++ property ++ "` failed: " ++ cause.message

end PropertyError

end Introspect
