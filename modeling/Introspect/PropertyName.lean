import Introspect.Text.Case

/-!
# Property names

How the name of an accessor method gives the name of a property, and which names a property may not
have. A method `getX` reads the property `x` and a method `setX` writes it; `isX` reads it when the
method returns a truth value.
-/

namespace Introspect.PropertyName

/-- Names that begin with a dollar sign, and the name `class`, are never properties. -/
def isReserved (name : String) : Bool := name.toList.head? == some '$' || name == "class"

/-- Puts the first letter in lower case, unless the second is upper case: `URL` stays as it is. -/
def decapitalize (name : List Char) : List Char :=
  match name with
  | [] => []
  | first :: rest =>
    if rest.head?.any Text.isUpper then name else Text.lowerChar first ++ rest

/-- What follows a leading word, if anything does. -/
def afterWord? (word name : List Char) : Option (List Char) :=
  if word.isPrefixOf name && word.length < name.length then some (name.drop word.length) else none

/-- The property that follows a leading word. -/
def following? (word : String) (method : String) : Option String :=
  (afterWord? word.toList method.toList).map fun rest => String.ofList (decapitalize rest)

/-- The property that a method without parameters reads, if its name is a getter's. -/
def ofGetter? (method : String) (returnsBool : Bool) : Option String :=
  match following? "get" method with
  | some property => some property
  | none => if returnsBool then following? "is" method else none

/-- The property that a method with one parameter writes, if its name is a setter's. -/
def ofSetter? (method : String) : Option String := following? "set" method

end Introspect.PropertyName
