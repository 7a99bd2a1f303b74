import Introspect.Text.IdentifierTable

/-!
# Identifier characters

Which characters may begin an identifier and which may continue one: the Unicode classes
`XID_Start` and `XID_Continue`, with the underscore among those that begin.
-/

namespace Introspect.Text

/-- Whether one of the closed ranges holds the character. -/
def inRanges (ranges : List (Nat × Nat)) (c : Char) : Bool :=
  ranges.any fun range => range.1 ≤ c.toNat && c.toNat ≤ range.2

/-- Whether a character may begin an identifier. -/
def isIdentifierStart (c : Char) : Bool :=
  c == '_' || c.isAlpha || (128 ≤ c.toNat && inRanges identifierStartRanges c)

/-- Whether a character may stand inside an identifier. -/
def isIdentifierContinue (c : Char) : Bool :=
  isIdentifierStart c || c.isDigit || (128 ≤ c.toNat && inRanges identifierContinueRanges c)

end Introspect.Text
