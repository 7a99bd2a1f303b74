import Introspect.Toml.Scalar

/-!
# Lines of TOML

Reads the text of a document into what its lines say: that a table begins, that one more element of
an array of tables begins, or that a key has a value. A value may go over several lines. White space
is spaces and tabs; a line ends in a line feed that may have a carriage return before it; no other
control character may stand anywhere.

* `Line.ofText?` reads a text.
-/

namespace Introspect.Toml

/-- What a line says. -/
inductive Line where
  /-- The table with these keys begins. -/
  | table (keys : List String)
  /-- One more element of the array of tables with these keys begins. -/
  | element (keys : List String)
  /-- A key, perhaps of a table inside the present one, has a value. -/
  | entry (keys : List String) (value : Value)
  deriving Repr

/-! ## Space between things -/

/-- Whether a character is white space within a line. -/
def isSpace (c : Char) : Bool := c == ' ' || c == '\t'

/-- Whether a character may stand in a comment or a string. -/
def isAllowed (c : Char) : Bool := c == '\t' || (32 ≤ c.toNat && c.toNat != 127)

/-- What is left after white space. -/
def dropSpace (text : List Char) : List Char := text.dropWhile isSpace

/-- What is left after a comment, if there is one. -/
def dropComment : List Char → List Char
  | '#' :: rest => rest.dropWhile isAllowed
  | text => text

/-- What follows the end of a line; the text may end too. -/
def lineEnd? : List Char → Option (List Char)
  | [] => some []
  | '\n' :: rest => some rest
  | '\r' :: '\n' :: rest => some rest
  | _ => none

/-- What is left after lines that hold nothing but white space and comments. -/
def dropEmptyLines : Nat → List Char → List Char
  | 0, text => text
  | rounds + 1, text =>
    let rest := dropComment (dropSpace text)
    match rest with
    | '\n' :: rest => dropEmptyLines rounds rest
    | '\r' :: '\n' :: rest => dropEmptyLines rounds rest
    | _ => rest

/-- What is left after white space, comments and line ends; a round takes a line. -/
def dropGap (text : List Char) : List Char := dropEmptyLines (text.length + 1) text

/-! ## Strings -/

/-- The character that a backslash and a letter stand for. -/
def escape? : Char → Option Char
  | 'b' => some '\x08'
  | 't' => some '\t'
  | 'n' => some '\n'
  | 'f' => some '\x0c'
  | 'r' => some '\r'
  | '"' => some '"'
  | '\\' => some '\\'
  | _ => none

/-- The character with a code given by hexadecimal digits. -/
def coded? (digits : List Char) : Option Char := Text.hexValue? digits >>= Text.charOfCode?

/-- Puts a character before the text of a string, if there is a string. -/
def before (c : Char) (string : Option (List Char × List Char)) : Option (List Char × List Char) :=
  string.map fun (text, rest) => (c :: text, rest)

/-- The text of a string on one line whose opening quote has been read, and what follows it. -/
def basicText? : List Char → Option (List Char × List Char)
  | [] => none
  | '"' :: rest => some ([], rest)
  | '\\' :: 'u' :: a :: b :: c :: d :: rest => do before (← coded? [a, b, c, d]) (basicText? rest)
  | '\\' :: 'U' :: a :: b :: c :: d :: e :: f :: g :: h :: rest => do
    before (← coded? [a, b, c, d, e, f, g, h]) (basicText? rest)
  | '\\' :: letter :: rest => do before (← escape? letter) (basicText? rest)
  | c :: rest => if isAllowed c then before c (basicText? rest) else none

/-- The text of a string without escapes on one line, and what follows it. -/
def literalText? : List Char → Option (List Char × List Char)
  | [] => none
  | '\'' :: rest => some ([], rest)
  | c :: rest => if isAllowed c then before c (literalText? rest) else none

/-- What is left after the line end with which a string of several lines may begin. -/
def dropFirstLineEnd : List Char → List Char
  | '\n' :: rest => rest
  | '\r' :: '\n' :: rest => rest
  | text => text

/-- What is left after white space and line ends. -/
def dropLineEnds : List Char → List Char
  | '\r' :: '\n' :: rest => dropLineEnds rest
  | c :: rest => if isSpace c || c == '\n' then dropLineEnds rest else c :: rest
  | [] => []

theorem length_dropLineEnds (text : List Char) : (dropLineEnds text).length ≤ text.length := by
  fun_induction dropLineEnds text with
  | case1 => simp only [List.length_cons]; omega
  | case2 => simp only [List.length_cons]; omega
  | case3 => exact Nat.le_refl _
  | case4 => exact Nat.le_refl _

/-- Whether white space and then a line end come next. -/
def endsLine (text : List Char) : Bool :=
  match dropSpace text with
  | '\n' :: _ => true
  | '\r' :: '\n' :: _ => true
  | _ => false

/-- The text of a string of several lines, and what follows it. A backslash at the end of a line
takes the white space after it away. Up to two quotes may stand before the three that close. -/
def basicLines? (text : List Char) : Option (List Char × List Char) :=
  match text with
  | [] => none
  -- of five quotes the first two belong to the text
  | '"' :: '"' :: '"' :: '"' :: '"' :: rest => some (['"', '"'], rest)
  | '"' :: '"' :: '"' :: '"' :: rest => some (['"'], rest)
  | '"' :: '"' :: '"' :: rest => some ([], rest)
  | '\\' :: 'u' :: a :: b :: c :: d :: rest =>
    match coded? [a, b, c, d] with
    | some c => before c (basicLines? rest)
    | none => none
  | '\\' :: 'U' :: a :: b :: c :: d :: e :: f :: g :: h :: rest =>
    match coded? [a, b, c, d, e, f, g, h] with
    | some c => before c (basicLines? rest)
    | none => none
  | '\\' :: letter :: rest =>
    -- a backslash with nothing but white space behind it continues the line
    if endsLine (letter :: rest) then
      have := length_dropLineEnds (letter :: rest)
      basicLines? (dropLineEnds (letter :: rest))
    else
      match escape? letter with
      | some c => before c (basicLines? rest)
      | none => none
  | '\r' :: '\n' :: rest => before '\n' (basicLines? rest)
  | c :: rest => if isAllowed c || c == '\n' then before c (basicLines? rest) else none
termination_by text.length
decreasing_by all_goals (simp only [List.length_cons] at *; omega)

/-- The text of a string of several lines without escapes, and what follows it. -/
def literalLines? : List Char → Option (List Char × List Char)
  | [] => none
  | '\'' :: '\'' :: '\'' :: '\'' :: '\'' :: rest => some (['\'', '\''], rest)
  | '\'' :: '\'' :: '\'' :: '\'' :: rest => some (['\''], rest)
  | '\'' :: '\'' :: '\'' :: rest => some ([], rest)
  | '\r' :: '\n' :: rest => before '\n' (literalLines? rest)
  | c :: rest => if isAllowed c || c == '\n' then before c (literalLines? rest) else none

/-! ## Keys -/

/-- Whether a character may stand in a key without quotes. -/
def isKeyChar (c : Char) : Bool := c.isAlphanum || c == '_' || c == '-'

/-- One key, and what follows it. -/
def key? (text : List Char) : Option (String × List Char) :=
  match text with
  | '"' :: rest => (basicText? rest).map fun (key, rest) => (String.ofList key, rest)
  | '\'' :: rest => (literalText? rest).map fun (key, rest) => (String.ofList key, rest)
  | _ =>
    if text.head?.any isKeyChar then
      some (String.ofList (text.takeWhile isKeyChar), text.dropWhile isKeyChar)
    else none

/-- Keys with points between them, at most as many as a number says, and what follows them and the
white space after them. -/
def keysIn? : Nat → List Char → Option (List String × List Char)
  | 0, _ => none
  | rounds + 1, text => do
    let (key, rest) ← key? (dropSpace text)
    match dropSpace rest with
    | '.' :: rest =>
      let (keys, rest) ← keysIn? rounds rest
      return (key :: keys, rest)
    | rest => return ([key], rest)

/-- Keys with points between them, and what follows them and the white space after them. -/
def keys? (text : List Char) : Option (List String × List Char) := keysIn? (text.length + 1) text

/-! ## Values -/

/-- Gives a member of a table between braces its value. Dotted keys make tables, which they may also
extend; what was given a value before is left alone. -/
def insertMember : List String → Value → List (String × Value) → Option (List (String × Value))
  | [], _, _ => none
  | [key], value, members =>
    if (members.lookup key).isSome then none else some (members ++ [(key, value)])
  | key :: keys, value, members =>
    match members.lookup key with
    | none => (insertMember keys value []).map fun inner => members ++ [(key, .table true inner)]
    -- only tables that dotted keys made may be extended
    | some (.table true inner) =>
      (insertMember keys value inner).map fun inner =>
        members.map fun member =>
          if member.1 == key then (key, .table true inner) else member
    | some _ => none

/-- Whether a character may stand in a scalar. -/
def isScalarChar (c : Char) : Bool :=
  c.isAlphanum || c == '_' || c == '-' || c == '+' || c == '.' || c == ':'

/-- A scalar, and what follows it. A space may stand between a date and a time. -/
def scalar? (text : List Char) : Option (Value × List Char) :=
  let word := text.takeWhile isScalarChar
  let rest := text.dropWhile isScalarChar
  match Scalar.dateEnd? word, rest with
  -- a word that is a date, and a space: a time may follow
  | some [], ' ' :: time =>
    if time.head?.any Char.isDigit then
      (Scalar.ofWord? (word ++ ' ' :: time.takeWhile isScalarChar)).map
        (·, time.dropWhile isScalarChar)
    else (Scalar.ofWord? word).map (·, rest)
  | _, _ => (Scalar.ofWord? word).map (·, rest)

/-- A string, and what follows it. -/
def string? (text : List Char) : Option (Value × List Char) :=
  let found := match text with
    | '"' :: '"' :: '"' :: rest => basicLines? (dropFirstLineEnd rest)
    | '"' :: rest => basicText? rest
    | '\'' :: '\'' :: '\'' :: rest => literalLines? (dropFirstLineEnd rest)
    | '\'' :: rest => literalText? rest
    | _ => none
  found.map fun (text, rest) => (.text (String.ofList text), rest)

mutual

/-- A value, and what follows it. The first number bounds how many steps are taken, the second how
deep arrays and tables may nest. -/
def value? : Nat → Nat → List Char → Option (Value × List Char)
  | 0, _, _ => none
  | steps + 1, levels, text =>
    match text, levels with
    -- no level is left for what is inside
    | '[' :: _, 0 => none
    | '\x7b' :: _, 0 => none
    | '[' :: rest, levels + 1 =>
      (items? steps levels (dropGap rest)).map fun (items, rest) => (.array items, rest)
    | '\x7b' :: rest, levels + 1 =>
      match dropSpace rest with
      | '\x7d' :: rest => some (.table false [], rest)
      | rest =>
        (members? steps levels [] rest).map fun (members, rest) => (.table false members, rest)
    | '"' :: _, _ => string? text
    | '\'' :: _, _ => string? text
    | _, _ => scalar? text

/-- The items of an array up to its closing bracket; a comma may stand after the last. -/
def items? : Nat → Nat → List Char → Option (List Value × List Char)
  | 0, _, _ => none
  | steps + 1, levels, text =>
    match text with
    | ']' :: rest => some ([], rest)
    | _ => do
      let (item, rest) ← value? steps levels text
      match dropGap rest with
      | ']' :: rest => return ([item], rest)
      | ',' :: rest =>
        let (items, rest) ← items? steps levels (dropGap rest)
        return (item :: items, rest)
      | _ => none

/-- The members of a table up to its closing brace, in addition to those that are known. -/
def members? : Nat → Nat → List (String × Value) → List Char →
    Option (List (String × Value) × List Char)
  | 0, _, _, _ => none
  | steps + 1, levels, known, text => do
    let (keys, rest) ← keys? text
    match rest with
    | '=' :: rest =>
      let (value, rest) ← value? steps levels (dropSpace rest)
      let known ← insertMember keys value known
      match dropSpace rest with
      | '\x7d' :: rest => return (known, rest)
      | ',' :: rest => members? steps levels known rest
      | _ => none
    | _ => none

end

/-! ## Lines -/

/-- How deep arrays and tables may nest in a value. -/
def nestingLimit : Nat := 80

namespace Line

/-- One line that says something, and what follows it on its last line. -/
def read? (text : List Char) : Option (Line × List Char) :=
  match text with
  | '[' :: '[' :: rest => do
    let (keys, rest) ← keys? rest
    match rest with
    | ']' :: ']' :: rest => return (.element keys, rest)
    | _ => none
  | '[' :: rest => do
    let (keys, rest) ← keys? rest
    match rest with
    | ']' :: rest => return (.table keys, rest)
    | _ => none
  | _ => do
    let (keys, rest) ← keys? text
    match rest with
    | '=' :: rest =>
      let (value, rest) ← value? (2 * rest.length + 2) nestingLimit (dropSpace rest)
      return (.entry keys value, rest)
    | _ => none

/-- The lines of a text that say something, at most as many as a number says. -/
def ofChars? : Nat → List Char → Option (List Line)
  | 0, _ => none
  | rounds + 1, text =>
    match dropGap text with
    | [] => some []
    | text => do
      let (line, rest) ← read? text
      let rest ← lineEnd? (dropComment (dropSpace rest))
      return line :: (← ofChars? rounds rest)

/-- The lines of a text that say something; a byte order mark before it is left out. -/
def ofText? (text : String) : Option (List Line) :=
  let chars := match text.toList with
    | '\ufeff' :: rest => rest
    | chars => chars
  ofChars? (chars.length + 1) chars

end Line

end Introspect.Toml
