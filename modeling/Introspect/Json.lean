import Introspect.Text.Hexadecimal

/-!
# Reading JSON

A reader for JSON texts, strict in all that the format fixes: no leading zeros, no trailing commas,
no control characters in strings, nothing after the value. Numbers are checked and not kept. A string
may spell half of a surrogate pair, which stands for no character; such a string is read without a
text, so that it is refused only where its text matters.

* `Json.parse` reads a whole text.
-/

namespace Introspect

/-- A JSON value. -/
inductive Json where
  | null
  | bool (value : Bool)
  | number
  | string (text? : Option String)
  | array (items : List Json)
  | object (members : List (Option String × Json))
  deriving Repr, Inhabited

namespace Json

/-! ## White space and literals -/

/-- The four characters that may stand between tokens. -/
def isBlank (c : Char) : Bool := c == ' ' || c == '\n' || c == '\t' || c == '\r'

/-- What is left after white space. -/
def skipBlanks (text : List Char) : List Char := text.dropWhile isBlank

/-- What is left after a word, if the text begins with it. -/
def word? (word text : List Char) : Option (List Char) :=
  if word.isPrefixOf text then some (text.drop word.length) else none

/-! ## Strings -/

/-- A piece of a string: a character, or a unit of UTF-16 written by its code. -/
inductive Piece where
  | char (c : Char)
  | unit (code : Nat)

/-- The character that a backslash and a letter stand for. -/
def escape? : Char → Option Char
  | '"' => some '"'
  | '\\' => some '\\'
  | '/' => some '/'
  | 'b' => some '\x08'
  | 'f' => some '\x0c'
  | 'n' => some '\n'
  | 'r' => some '\r'
  | 't' => some '\t'
  | _ => none

/-- The pieces of a string whose opening quote has been read, and what follows its closing quote. -/
def stringPieces : List Char → Option (List Piece × List Char)
  | [] => none
  | '"' :: rest => some ([], rest)
  | '\\' :: 'u' :: a :: b :: c :: d :: rest => do
    let code ← Text.hexValue? [a, b, c, d]
    let (pieces, rest) ← stringPieces rest
    return (.unit code :: pieces, rest)
  | '\\' :: letter :: rest => do
    let c ← escape? letter
    let (pieces, rest) ← stringPieces rest
    return (.char c :: pieces, rest)
  | c :: rest =>
    if c.toNat < 32 then none
    else do
      let (pieces, rest) ← stringPieces rest
      return (.char c :: pieces, rest)

/-- The text of a string; two units that form a surrogate pair are one character, and half a pair is
none. -/
def pieceText? : List Piece → Option (List Char)
  | [] => some []
  | .char c :: rest => (pieceText? rest).map (c :: ·)
  | .unit high :: rest =>
    -- a unit that is no half of a pair
    if high < 0xd800 ∨ 0xdfff < high then (pieceText? rest).map (Char.ofNat high :: ·)
    -- the second half of a pair, without the first
    else if 0xdc00 ≤ high then none
    else
      match rest with
      | .unit low :: rest =>
        if 0xdc00 ≤ low ∧ low ≤ 0xdfff then
          (pieceText? rest).map
            (Char.ofNat (0x10000 + (high - 0xd800) * 0x400 + (low - 0xdc00)) :: ·)
        else none
      | _ => none

/-! ## Numbers -/

/-- What is left after one or more digits. -/
def digits? (text : List Char) : Option (List Char) :=
  match text with
  | c :: rest => if c.isDigit then some (rest.dropWhile Char.isDigit) else none
  | [] => none

/-- What is left after the digits before the point: a zero alone, or digits that begin with another
one. -/
def integerDigits? : List Char → Option (List Char)
  | '0' :: rest => if rest.head?.any Char.isDigit then none else some rest
  | text => digits? text

/-- What is left after a fraction, if there is one. -/
def fraction? : List Char → Option (List Char)
  | '.' :: rest => digits? rest
  | text => some text

/-- What is left after an exponent, if there is one. -/
def exponent? : List Char → Option (List Char)
  | c :: rest =>
    if c == 'e' || c == 'E' then
      match rest with
      | sign :: digits => if sign == '+' || sign == '-' then digits? digits else digits? rest
      | [] => none
    else some (c :: rest)
  | [] => some []

/-- What is left after a number. -/
def number? (text : List Char) : Option (List Char) :=
  let unsigned := match text with
    | '-' :: rest => rest
    | _ => text
  integerDigits? unsigned >>= fraction? >>= exponent?

/-! ## Values -/

mutual

/-- Reads a value; white space before it is skipped. The first argument bounds the nesting. -/
def value? : Nat → List Char → Option (Json × List Char)
  | 0, _ => none
  | fuel + 1, text =>
    match skipBlanks text with
    | '[' :: rest =>
      match skipBlanks rest with
      | ']' :: rest => some (.array [], rest)
      | rest => (items? fuel rest).map fun (items, rest) => (.array items, rest)
    | '\x7b' :: rest =>
      match skipBlanks rest with
      | '\x7d' :: rest => some (.object [], rest)
      | rest => (members? fuel rest).map fun (members, rest) => (.object members, rest)
    | '"' :: rest =>
      (stringPieces rest).map fun (pieces, rest) =>
        (.string ((pieceText? pieces).map String.ofList), rest)
    | 'n' :: rest => (word? "ull".toList rest).map (.null, ·)
    | 't' :: rest => (word? "rue".toList rest).map (.bool true, ·)
    | 'f' :: rest => (word? "alse".toList rest).map (.bool false, ·)
    | rest => (number? rest).map (.number, ·)

/-- Reads the items of an array up to its closing bracket. -/
def items? : Nat → List Char → Option (List Json × List Char)
  | 0, _ => none
  | fuel + 1, text => do
    let (item, rest) ← value? fuel text
    match skipBlanks rest with
    | ']' :: rest => return ([item], rest)
    | ',' :: rest =>
      let (items, rest) ← items? fuel rest
      return (item :: items, rest)
    | _ => none

/-- Reads the members of an object up to its closing brace. -/
def members? : Nat → List Char → Option (List (Option String × Json) × List Char)
  | 0, _ => none
  | fuel + 1, text =>
    match skipBlanks text with
    | '"' :: rest => do
      let (pieces, rest) ← stringPieces rest
      let key := (pieceText? pieces).map String.ofList
      match skipBlanks rest with
      | ':' :: rest =>
        let (value, rest) ← value? fuel rest
        match skipBlanks rest with
        | '\x7d' :: rest => return ([(key, value)], rest)
        | ',' :: rest =>
          let (members, rest) ← members? fuel rest
          return ((key, value) :: members, rest)
        | _ => none
      | _ => none
    | _ => none

end

/-- Reads a text that holds one value and nothing else. -/
def parse (text : String) : Option Json :=
  let chars := text.toList
  match value? (2 * chars.length + 2) chars with
  | some (value, rest) => if (skipBlanks rest).isEmpty then some value else none
  | none => none

end Json

end Introspect
