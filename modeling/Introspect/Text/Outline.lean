/-!
# Outlines

One-line summaries of values for a reader: a name with labelled parts between braces, lists between
brackets, and a value that may be missing.
-/

namespace Introspect.Text

/-- A list between brackets. -/
def listOutline (items : List String) : String := "[" ++ ", ".intercalate items ++ "]"

/-- A value that may be missing. -/
def optionOutline : Option String → String
  | some item => "Some(" ++ item ++ ")"
  | none => "None"

/-- A name with labelled parts; an open outline ends with two dots, for parts it does not show. -/
def recordOutline (name : String) (parts : List (String × String)) (isOpen : Bool) : String :=
  let shown := parts.map fun part => part.1 ++ ": " ++ part.2
  let items := if isOpen then shown ++ [".."] else shown
  name ++ " \x7b " ++ ", ".intercalate items ++ " \x7d"

end Introspect.Text
