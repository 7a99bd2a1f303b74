import Introspect.Text.CaseTable

/-!
# Letter case

Case mapping over all of Unicode. A character may map to several characters, so a mapping yields a
list. `upper` is the form under which two spellings of a name count as one; `lowerChar` and
`isUpper` decide how an accessor's name becomes a property's name.
-/

namespace Introspect.Text

/-- Looks a character above ASCII up in the data of a mapping. -/
def mapCase (sequences : List (Nat × List Nat)) (runs : List CaseRun) (c : Char) : List Char :=
  match sequences.lookup c.toNat with
  | some codes => codes.map Char.ofNat
  | none =>
    match runs.findSome? (·.move? c.toNat) with
    | some code => [Char.ofNat code]
    | none => [c]

/-- The lower-case form of a character. -/
def lowerChar (c : Char) : List Char :=
  if c.toNat < 128 then [c.toLower] else mapCase lowerSequences lowerRuns c

/-- The upper-case form of a character. -/
def upperChar (c : Char) : List Char :=
  if c.toNat < 128 then [c.toUpper] else mapCase upperSequences upperRuns c

/-- Whether a character has the `Uppercase` property, which title-case letters lack. -/
def isUpper (c : Char) : Bool :=
  if c.toNat < 128 then c.isUpper else uppercaseRuns.any fun run => (run.move? c.toNat).isSome

/-- The upper-case form of a text, character by character. -/
def upper (text : String) : String := String.ofList (text.toList.flatMap upperChar)

end Introspect.Text
