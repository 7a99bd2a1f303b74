/-!
# Token trees

Program text after its tokens have been told apart: words, lifetimes, punctuation marks, literals,
and groups between brackets. Comments and white space are gone; a mark remembers whether another
mark follows it at once, for that is what makes `::` one operator and `: :` two.

* `Tree.render` writes trees with one space between tokens.
-/

namespace Introspect.Code

/-- The three kinds of brackets. -/
inductive Bracket where
  | round
  | square
  | curly
  deriving DecidableEq, Repr

/-- A token, or a group of trees between brackets. -/
inductive Tree where
  /-- An identifier, a keyword or a lone underscore; a raw identifier keeps its `r#`. -/
  | word (text : String)
  /-- A lifetime, without its apostrophe. -/
  | lifetime (name : String)
  /-- One punctuation mark; a joint one has the next mark at its side. -/
  | mark (char : Char) (joint : Bool)
  /-- A number, a character or a string, as it was written. -/
  | literal (text : String)
  | group (bracket : Bracket) (inner : List Tree)
  deriving Repr, Inhabited

/-- What opens a group. An opening brace stands off from what follows. -/
def Bracket.opening : Bracket → String
  | .round => "("
  | .square => "["
  | .curly => "\x7b "

/-- What closes a group. A closing brace stands off from what goes before it, if anything does. -/
def Bracket.closing (isEmpty : Bool) : Bracket → String
  | .round => ")"
  | .square => "]"
  | .curly => if isEmpty then "\x7d" else " \x7d"

namespace Tree

/-- Whether no space follows a tree. -/
def isJoint : Tree → Bool
  | .mark _ joint => joint
  | _ => false

mutual

/-- One tree as text. -/
def text : Tree → String
  | .word text => text
  | .lifetime name => "'" ++ name
  | .mark char _ => String.singleton char
  | .literal text => text
  | .group bracket inner =>
    bracket.opening ++ render inner ++ bracket.closing inner.isEmpty

/-- Trees as text, with one space between two of them unless the first is a joint mark. -/
def render : List Tree → String
  | [] => ""
  | [tree] => tree.text
  | tree :: next :: rest =>
    tree.text ++ (if tree.isJoint then "" else " ") ++ render (next :: rest)

end

mutual

/-- The number of tokens in a tree, a pair of brackets counted as one. -/
def size : Tree → Nat
  | .group _ inner => sizes inner + 1
  | _ => 1

/-- The number of tokens in a list of trees. -/
def sizes : List Tree → Nat
  | [] => 0
  | tree :: rest => tree.size + sizes rest

end

end Tree

/-- The marks of an operator: all but the last are joint. -/
def marks (operator : String) : List Tree := go operator.toList
where
  /-- The marks of an operator given by its characters. -/
  go : List Char → List Tree
    | [] => []
    | [c] => [.mark c false]
    | c :: rest => .mark c true :: go rest

end Introspect.Code
