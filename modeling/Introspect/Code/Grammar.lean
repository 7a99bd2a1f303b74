import Introspect.Code.Tree

/-!
# Readers of token trees

A reader takes trees from the front of a list, or fails. What it reads it gives back as the trees
that are written for it: an operator is told by its marks and written with all but the last joint,
however its marks stood.
-/

namespace Introspect.Code

/-- A reader of token trees. -/
abbrev Parser := StateT (List Tree) Option

/-! ## Looking ahead -/

/-- What follows an operator, given by its characters. Its marks stand side by side; what comes
after the last of them does not matter. -/
def afterOperator? : List Char → List Tree → Option (List Tree)
  | [c], .mark d _ :: rest => if c == d then some rest else none
  | c :: more, .mark d joint :: rest => if c == d && joint then afterOperator? more rest else none
  | _, _ => none

/-- Whether an operator comes next. -/
def sees (operator : String) (trees : List Tree) : Bool :=
  (afterOperator? operator.toList trees).isSome

/-- Whether a certain word comes next. -/
def seesWord (text : String) : List Tree → Bool
  | .word found :: _ => found == text
  | _ => false

/-- Whether any of some words comes next. -/
def seesAnyWord (texts : List String) (trees : List Tree) : Bool := texts.any (seesWord · trees)

/-- Whether a group comes next. -/
def seesGroup (bracket : Bracket) : List Tree → Bool
  | .group found _ :: _ => found == bracket
  | _ => false

/-- Whether a lifetime comes next. -/
def seesLifetime : List Tree → Bool
  | .lifetime _ :: _ => true
  | _ => false

/-- Words that cannot name a thing. -/
def keywords : List String :=
  ["_", "abstract", "as", "async", "await", "become", "box", "break", "const", "continue", "crate",
   "do", "dyn", "else", "enum", "extern", "false", "final", "fn", "for", "if", "impl", "in", "let",
   "loop", "macro", "match", "mod", "move", "mut", "override", "priv", "pub", "ref", "return",
   "Self", "self", "static", "struct", "super", "trait", "true", "try", "type", "typeof", "unsafe",
   "unsized", "use", "virtual", "where", "while", "yield"]

/-- Whether a word that names a thing comes next. -/
def seesName : List Tree → Bool
  | .word text :: _ => !keywords.contains text
  | _ => false

/-- Whether a word of any kind comes next. -/
def seesSomeWord : List Tree → Bool
  | .word _ :: _ => true
  | _ => false

/-- Whether a number, a character, a string or a truth value comes next; a minus sign may stand
before a number. -/
def seesLiteral : List Tree → Bool
  | .literal _ :: _ => true
  | .word text :: _ => text == "true" || text == "false"
  | .mark '-' _ :: .literal text :: _ => text.toList.head?.any Char.isDigit
  | _ => false

/-! ## Taking -/

namespace Parser

/-- Takes an operator. -/
def operator (text : String) : Parser (List Tree) := fun trees =>
  (afterOperator? text.toList trees).map fun rest => (marks text, rest)

/-- Takes an operator, if it comes next. -/
def operator? (text : String) : Parser (List Tree) := do
  if sees text (← get) then operator text else return []

/-- Takes a word of any kind. -/
def someWord : Parser String
  | .word text :: rest => some (text, rest)
  | _ => none

/-- Takes a word that names a thing. -/
def name : Parser String := fun trees => if seesName trees then someWord trees else none

/-- Takes a certain word. -/
def word (text : String) : Parser (List Tree) := do
  guard (seesWord text (← get))
  let _ ← someWord
  return [.word text]

/-- Takes a certain word, if it comes next. -/
def word? (text : String) : Parser (List Tree) := do
  if seesWord text (← get) then word text else return []

/-- Takes a lifetime. -/
def lifetime : Parser (List Tree)
  | .lifetime name :: rest => some ([.lifetime name], rest)
  | _ => none

/-- Takes a lifetime, if one comes next. -/
def lifetime? : Parser (List Tree) := do
  if seesLifetime (← get) then lifetime else return []

/-- Takes a literal, with its sign. -/
def literal : Parser (List Tree)
  | .mark '-' _ :: .literal text :: rest =>
    if text.toList.head?.any Char.isDigit then some (marks "-" ++ [.literal text], rest) else none
  | .literal text :: rest => some ([.literal text], rest)
  | .word text :: rest =>
    if text == "true" || text == "false" then some ([.word text], rest) else none
  | _ => none

/-- Takes a group, whatever it holds. -/
def anyGroup : Parser (List Tree)
  | .group bracket inner :: rest => some ([.group bracket inner], rest)
  | _ => none

/-- Reads the whole of some trees. -/
def readAll (reader : Parser α) (trees : List Tree) : Option α :=
  match reader trees with
  | some (a, []) => some a
  | _ => none

/-- Takes a group whose inside a reader reads to its end. -/
def within (bracket : Bracket) (reader : Parser α) : Parser α
  | .group found inner :: rest =>
    if found == bracket then (readAll reader inner).map (·, rest) else none
  | _ => none

/-- Takes a group whose inside a reader reads to its end, and gives the group that is written. -/
def group (bracket : Bracket) (reader : Parser (List Tree)) : Parser (List Tree) := do
  return [.group bracket (← within bracket reader)]

/-- Reads some trees to their end by steps; each step takes one or more. -/
def toEndIn (step : Parser (List α)) : Nat → Parser (List α)
  | 0 => failure
  -- one round more than there are trees is enough, since each step takes a tree
  | rounds + 1 => do
    if (← get).isEmpty then return []
    return (← step) ++ (← toEndIn step rounds)

/-- Reads trees to their end by steps; each step takes one or more. -/
def toEnd (step : Parser (List α)) : Parser (List α) := do
  toEndIn step ((← get).length + 1)

/-- Reads things with commas between them up to the end; one more comma may stand there. -/
def listOf (thing : Parser α) : Parser (List α) :=
  toEnd do
    let read ← thing
    if (← get).isEmpty then return [read]
    let _ ← operator ","
    return [read]

/-- An item, and the comma after it, unless it is the last. -/
def itemAndComma (item : Parser (List Tree)) : Parser (List Tree) := do
  let written ← item
  if (← get).isEmpty then return written
  return written ++ (← operator ",")

/-- Reads items with commas between them up to the end; one more comma may stand there. -/
def commaSeparated (item : Parser (List Tree)) : Parser (List Tree) := toEnd (itemAndComma item)

/-- Takes steps until a test holds before one of them. -/
def stepsUntilIn (stop : List Tree → Bool) (step : Parser (List Tree × Bool)) :
    Nat → Parser (List Tree)
  | 0 => failure
  | rounds + 1 => do
    if stop (← get) then return []
    let (written, goesOn) ← step
    if goesOn then return written ++ (← stepsUntilIn stop step rounds) else return written

/-- Takes steps until a test holds before one of them, or a step says that it was the last. -/
def stepsUntil (stop : List Tree → Bool) (step : Parser (List Tree × Bool)) : Parser (List Tree) := do
  stepsUntilIn stop step ((← get).length + 1)

/-- Takes items with an operator between them, until a test holds before an item; the operator may
stand after the last one too. -/
def separated (operatorText : String) (stop : List Tree → Bool) (item : Parser (List Tree)) :
    Parser (List Tree) :=
  stepsUntil stop do
    let written ← item
    if sees operatorText (← get) then return (written ++ (← operator operatorText), true)
    else return (written, false)

end Parser

end Introspect.Code
