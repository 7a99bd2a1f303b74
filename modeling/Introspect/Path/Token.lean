import Introspect.Path
import Introspect.Text.Bytes

/-!
# Reading a path token by token

A path is read one segment at a time, and what is left stays a text until the next segment is asked
for. All is cut by byte offsets: at the first dot, at the first bracket of the segment before it,
and before the last byte of that segment. To cut outside a text or inside a character would be
fatal, with one exception: an index that cannot be cut is empty.

* `Token.read?` reads the first segment of a text; it has no answer if the text is cut wrongly.
* `Token.readAll?` reads segment by segment until nothing is left.
-/

namespace Introspect

open Text

/-- The first segment of a path, with the text that is left after it. -/
structure Token where
  name : String
  /-- The segment as written. -/
  indexedName : String
  index? : Option String
  remainder? : Option String
  deriving DecidableEq, Repr

namespace Token

/-- The first segment of a text, and what follows the dot after it. -/
def cutFirst? (text : List Char) : Option (List Char × Option (List Char)) :=
  match offsetOf? '.' text with
  | none => some (text, none)
  | some dot => do
    let first ← slice? 0 dot text
    let rest ← slice? (dot + 1) (byteCount text) text
    return (first, some rest)

/-- The name of a segment, and its index where it has a bracket: the index goes up to the last byte,
which stands for the closing bracket, but begins after the opening one in any case. -/
def cutIndex? (segment : List Char) : Option (List Char × Option (List Char)) :=
  match offsetOf? '[' segment with
  | none => some (segment, none)
  | some bracket => do
    -- a segment with a bracket has a last byte
    let last ← lastByte? segment
    let name ← slice? 0 bracket segment
    return (name, some ((slice? (bracket + 1) (max last (bracket + 1)) segment).getD []))

/-- Reads the first segment of a text. -/
def read? (text : String) : Option Token := do
  let (segment, remainder?) ← cutFirst? text.toList
  let (name, index?) ← cutIndex? segment
  return { name := String.ofList name
           indexedName := String.ofList segment
           index? := index?.map String.ofList
           remainder? := remainder?.map String.ofList }

/-- The text that a token is read from. -/
def render (token : Token) : String :=
  match token.remainder? with
  | none => token.indexedName
  | some rest => token.indexedName ++ "." ++ rest

/-- What is left after a token is shorter than the text that the token was read from. -/
theorem length_remainder_lt {text rest : String} {token : Token} (hToken : read? text = some token)
    (hRest : token.remainder? = some rest) : rest.toList.length < text.toList.length := by
  obtain ⟨⟨segment, remainder?⟩, hFirst, hOther⟩ := Option.bind_eq_some_iff.mp hToken
  obtain ⟨⟨name, index?⟩, -, hMade⟩ := Option.bind_eq_some_iff.mp hOther
  cases hMade
  obtain ⟨piece, rfl, rfl⟩ := Option.map_eq_some_iff.mp hRest
  rw [String.toList_ofList]
  -- something is left only behind a dot, where it was cut off
  unfold cutFirst? at hFirst
  split at hFirst
  · cases hFirst
  · obtain ⟨_, -, hTail⟩ := Option.bind_eq_some_iff.mp hFirst
    obtain ⟨_, hPiece, hSame⟩ := Option.bind_eq_some_iff.mp hTail
    cases hSame
    exact length_lt_of_slice? hPiece

/-- Reads all segments of a text, one after the other. -/
def readAll? (text : String) : Option (List Token) :=
  match _ : read? text with
  | none => none
  | some token =>
    match _ : token.remainder? with
    | none => some [token]
    | some rest => (readAll? rest).map (token :: ·)
termination_by text.toList.length
decreasing_by exact length_remainder_lt ‹_› ‹_›

end Token

end Introspect
