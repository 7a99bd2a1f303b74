/-!
# Values of TOML

The values that a TOML document may give to a key. Numbers with a fraction and moments in time are
checked when they are read, and not kept.
-/

namespace Introspect.Toml

/-- A value of a TOML document. -/
inductive Value where
  | boolean (value : Bool)
  | integer (value : Int)
  /-- A number with a fraction or an exponent, an infinity, or no number. -/
  | decimal
  /-- A date, a time, or both. -/
  | moment
  | text (value : String)
  | array (items : List Value)
  /-- A table between braces; one that dotted keys made is open to more of them. -/
  | table (isOpen : Bool) (members : List (String × Value))
  deriving Repr, Inhabited

/-- The text that a value is, if it is one. -/
def Value.text? : Value → Option String
  | .text value => some value
  | _ => none

end Introspect.Toml
