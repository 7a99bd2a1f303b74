/-!
# Property paths

A property path is a chain of segments separated by dots; a segment may carry one bracketed index:
`order.items[0].name`. A path is cut at its dots alone, and a segment at its first bracket, so every
text is a path: brackets that do not match are left as they are, and a dot inside brackets still
cuts.

* `Segment` is one dot-free piece, kept as written; its name and its index are read off the text.
* `Path.parse` cuts a text into segments, `Path.render` joins them again.
-/

namespace Introspect

/-! ## Segments -/

/-- One piece of a path, as written. -/
structure Segment where
  text : String
  deriving DecidableEq, Repr, Inhabited

/-- What a bracketed index holds: all up to the last byte, which stands for the closing bracket.
A last character of several bytes cannot be cut, and the index is then empty. -/
def indexText (afterBracket : List Char) : List Char :=
  match afterBracket.getLast? with
  | some last => if last.utf8Size = 1 then afterBracket.dropLast else []
  | none => []

namespace Segment

/-- The property that a segment names: all before its first bracket. -/
def name (segment : Segment) : String :=
  String.ofList (segment.text.toList.takeWhile (· != '['))

/-- The text of the index, where the segment has a bracket. -/
def index? (segment : Segment) : Option String :=
  match segment.text.toList.dropWhile (· != '[') with
  | [] => none
  | _ :: afterBracket => some (String.ofList (indexText afterBracket))

/-- Whether a segment has a bracket. -/
def isIndexed (segment : Segment) : Bool := segment.index?.isSome

/-- The segment of a name and an index. -/
def ofNameIndex (name : String) : Option String → Segment
  | some index => ⟨name ++ "[" ++ index ++ "]"⟩
  | none => ⟨name⟩

end Segment

/-! ## Paths -/

/-- A chain of segments; there is always a first one. -/
structure Path where
  head : Segment
  tail : List Segment
  deriving DecidableEq, Repr, Inhabited

/-- Cuts a text at every dot. -/
def cutAtDots : List Char → List Char × List (List Char)
  | [] => ([], [])
  | c :: rest =>
    -- what the rest begins with belongs to this piece, unless a dot stands here
    let (first, others) := cutAtDots rest
    if c = '.' then ([], first :: others) else (c :: first, others)

namespace Path

/-- The path that a text spells. -/
def parse (text : String) : Path :=
  let (first, others) := cutAtDots text.toList
  ⟨⟨String.ofList first⟩, others.map fun piece => ⟨String.ofList piece⟩⟩

/-- All segments, the first one included. -/
def segments (path : Path) : List Segment := path.head :: path.tail

/-- The path without its first segment, where something is left. -/
def next? (path : Path) : Option Path :=
  match path.tail with
  | [] => none
  | segment :: rest => some ⟨segment, rest⟩

/-- The text of a path: its segments joined by dots. -/
def render (path : Path) : String := ".".intercalate (path.segments.map Segment.text)

end Path

end Introspect
