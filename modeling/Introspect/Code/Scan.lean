import Introspect.Code.Tree
import Introspect.Code.Literal

/-!
# Telling tokens apart

Reads program text into token trees. Comments and white space only part tokens, except for the
comments that document what follows: they stand for an attribute that holds their text.

* `scan` reads a whole text.
-/

namespace Introspect.Code

open Introspect.Text

/-! ## Comments -/

/-- Whether a character only parts tokens: white space and the two marks of writing direction. -/
def isSeparator (c : Char) : Bool := isBlank c || c == '\u200e' || c == '\u200f'

/-- What follows a block comment that begins here, the number of open comments around it given;
comments nest. -/
def blockCommentEnd? : Nat → List Char → Option (List Char)
  | depth, '/' :: '*' :: rest => blockCommentEnd? (depth + 1) rest
  | depth, '*' :: '/' :: rest => if depth ≤ 1 then some rest else blockCommentEnd? (depth - 1) rest
  | depth, _ :: rest => blockCommentEnd? depth rest
  | _, [] => none

/-- The rest of a line, without what ends it, and what follows. -/
def restOfLine : List Char → List Char × List Char
  | [] => ([], [])
  | '\n' :: rest => ([], '\n' :: rest)
  | '\r' :: '\n' :: rest => ([], '\n' :: rest)
  | c :: rest => (c :: (restOfLine rest).1, (restOfLine rest).2)

/-- What follows a comment that documents nothing. -/
def plainCommentEnd? (text : List Char) : Option (List Char) :=
  match text with
  -- four slashes document nothing, and neither does an empty block
  | '/' :: '/' :: '/' :: '/' :: rest => some (restOfLine rest).2
  | '/' :: '/' :: '/' :: _ => none
  | '/' :: '/' :: '!' :: _ => none
  | '/' :: '/' :: rest => some (restOfLine rest).2
  | '/' :: '*' :: '*' :: '/' :: rest => some rest
  | '/' :: '*' :: '*' :: '*' :: _ => blockCommentEnd? 0 text
  | '/' :: '*' :: '*' :: _ => none
  | '/' :: '*' :: '!' :: _ => none
  | '/' :: '*' :: _ => blockCommentEnd? 0 text
  | _ => none

/-- Every carriage return of the text has its line feed. -/
def isFreeOfBareReturns : List Char → Bool
  | [] => true
  | '\r' :: '\n' :: rest => isFreeOfBareReturns rest
  | c :: rest => c != '\r' && isFreeOfBareReturns rest

/-- The text inside a block comment that documents, and what follows it. -/
def documentedBlock? (text : List Char) : Option (List Char × List Char) :=
  (blockCommentEnd? 0 text).map fun rest =>
    ((text.take (text.length - rest.length - 2)).drop 3, rest)

/-- A comment that documents: its text, whether it documents what is around it, and what follows. -/
def docComment? (text : List Char) : Option (List Char × Bool × List Char) :=
  let found := match text with
    | '/' :: '/' :: '!' :: rest => some ((restOfLine rest).1, true, (restOfLine rest).2)
    | '/' :: '/' :: '/' :: rest => some ((restOfLine rest).1, false, (restOfLine rest).2)
    | '/' :: '*' :: '!' :: _ => (documentedBlock? text).map fun (inner, rest) => (inner, true, rest)
    | '/' :: '*' :: '*' :: _ =>
      (documentedBlock? text).map fun (inner, rest) => (inner, false, rest)
    | _ => none
  found.filter fun (inner, _) => isFreeOfBareReturns inner

/-- The attribute that a documenting comment stands for. -/
def docAttribute (inner : List Char) (isAround : Bool) : List Tree :=
  [.mark '#' false] ++ (if isAround then [.mark '!' false] else []) ++
    [.group .square
      [.word "doc", .mark '=' false, .literal (quotedLiteral (String.ofList inner))]]

/-! ## Words and marks -/

/-- Words that no raw identifier may be. -/
def neverRaw : List String := ["_", "super", "self", "Self", "crate"]

/-- A word, raw or not, and what follows it. -/
def word? (text : List Char) : Option (String × List Char) :=
  let (isRaw, text) := match text with
    | 'r' :: '#' :: rest => (true, rest)
    | _ => (false, text)
  match wordEnd? text with
  | some rest =>
    -- the name is what stands before the rest of the text
    let name := String.ofList (text.take (text.length - rest.length))
    if isRaw && neverRaw.contains name then none
    else some (if isRaw then "r#" ++ name else name, rest)
  | none => none

/-- Letters that begin a literal when a quote or a number sign comes next, and so never a word. -/
def literalOpenings : List String :=
  ["r\"", "r#\"", "r##", "b\"", "b'", "br\"", "br#", "c\"", "cr\"", "cr#"]

/-- Whether a character is a punctuation mark. -/
def isMark (c : Char) : Bool := "~!@#$%^&*-=+|;:,<.>/?'".toList.contains c

/-- Whether a text begins with a punctuation mark, and not with a comment. -/
def beginsWithMark : List Char → Bool
  | '/' :: '/' :: _ => false
  | '/' :: '*' :: _ => false
  | c :: _ => isMark c
  | [] => false

/-- A lifetime after its apostrophe, and what follows it. -/
def lifetime? (text : List Char) : Option (Tree × List Char) :=
  match word? text with
  | some (name, rest) =>
    -- an apostrophe behind the word makes it a character that is not well written
    if rest.head? == some '\'' then none
    else if rest.head? == some '#' && !("r#".toList.isPrefixOf text) then none
    else some (.lifetime name, rest)
  | none => none

/-- A token at the start of a text, and what follows it. -/
def leaf? (text : List Char) : Option (Tree × List Char) :=
  match literalEnd? text with
  | some rest => some (.literal (String.ofList (text.take (text.length - rest.length))), rest)
  | none =>
    match text with
    | [] => none
    | c :: rest =>
      if beginsWithMark text then
        -- an apostrophe that begins no character begins a lifetime
        if c == '\'' then lifetime? rest else some (.mark c (beginsWithMark rest), rest)
      else if literalOpenings.any fun opening => opening.toList.isPrefixOf text then none
      else (word? text).map fun (name, rest) => (.word name, rest)

/-! ## Groups -/

/-- The bracket that a character opens. -/
def opening? : Char → Option Bracket
  | '(' => some .round
  | '[' => some .square
  | '\x7b' => some .curly
  | _ => none

/-- The bracket that a character closes. -/
def closing? : Char → Option Bracket
  | ')' => some .round
  | ']' => some .square
  | '\x7d' => some .curly
  | _ => none

/-- Reads text into trees. The groups that are open are kept with what stands before each of them,
the innermost first, and trees are gathered in reverse. Each round reads a character or more, so
that as many rounds as there are characters, and one to end, are enough. -/
def scanFrom : Nat → List (Bracket × List Tree) → List Tree → List Char → Option (List Tree)
  | 0, _, _, _ => none
  | _ + 1, open_, done, [] => if open_.isEmpty then some done.reverse else none
  | rounds + 1, open_, done, c :: rest =>
    if isSeparator c then scanFrom rounds open_ done rest
    else
      match plainCommentEnd? (c :: rest) with
      | some rest => scanFrom rounds open_ done rest
      | none =>
        match docComment? (c :: rest) with
        | some (inner, isAround, rest) =>
          scanFrom rounds open_ ((docAttribute inner isAround).reverse ++ done) rest
        | none =>
          match opening? c with
          | some bracket => scanFrom rounds ((bracket, done) :: open_) [] rest
          -- a bracket closes the innermost group, and has to fit it
          | none =>
            match closing? c, open_ with
            | some bracket, (opened, before) :: open_ =>
              if bracket == opened then
                scanFrom rounds open_ (.group bracket done.reverse :: before) rest
              else none
            | some _, [] => none
            | none, _ =>
              match leaf? (c :: rest) with
              | some (tree, rest) => scanFrom rounds open_ (tree :: done) rest
              | none => none

/-- The token trees of a text; a byte order mark before it is left out. -/
def scan (text : String) : Option (List Tree) :=
  let chars := match text.toList with
    | '\ufeff' :: rest => rest
    | chars => chars
  scanFrom (chars.length + 1) [] [] chars

end Introspect.Code
