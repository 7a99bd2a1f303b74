import Introspect.Toml.Document
import Introspect.Code.Scan
import Introspect.Code.Type

/-!
# Manifests of packages

A program names a library by a path, and what the path is depends on how the program's manifest lists
the library. An entry may be keyed by the library's name; it may have another key and give the name
as its `package`; or the program may have a facade only, under which the library is a module. The
ordinary dependencies are asked first, then those for development; a library that is listed nowhere
goes by its own name.

* `Manifest.find` says how a manifest lists a library, and `Listing.path?` what the path then is.
-/

namespace Introspect

open Code Toml

namespace Toml

/-- The package that an entry of a section gives for its key. -/
def Item.package? : Item → Option String
  | .table _ entries =>
    match entries.lookup "package" with
    | some (.value given) => given.text?
    | _ => none
  -- a table between braces may give the package too
  | .value (.table _ members) => (members.lookup "package").bind Value.text?
  | _ => none

end Toml

/-- How a manifest lists a library. -/
inductive Listing where
  /-- Under a key, or nowhere, and then by its own name. -/
  | direct (key : String)
  /-- As a module of a facade. -/
  | module (facade name : String)
  deriving DecidableEq, Repr

namespace Listing

/-- The path that a text spells from the root of all packages. -/
def spelledPath? (text : String) : Option (List Tree) :=
  scan ("::" ++ text) >>= Parser.readAll pathReader |>.map (·.tokens)

/-- The path of a listed library; a text that spells no path has none. -/
def path? : Listing → Option (List Tree)
  | .direct key => spelledPath? key
  | .module facade name => do
    let path ← spelledPath? facade
    -- the name is read as one segment, without the colons of a path
    let segment ← scan name >>= Parser.readAll segmentReader
    return path ++ marks "::" ++ segment.tokens

end Listing

namespace Manifest

/-- The facades, the preferred one first. -/
def facades : List String := ["pm_core", "pm"]

/-- How the names of the libraries begin that facades have as modules. -/
def familyMark : String := "pm_"

/-- The sections that list libraries, in the order in which they are asked. -/
def sections : List String := ["dependencies", "dev-dependencies"]

/-- The name that a library has as a module of a facade. -/
def moduleName? (name : String) : Option String :=
  let mark := familyMark.toList
  if mark.isPrefixOf name.toList then some (String.ofList (name.toList.drop mark.length)) else none

/-- How a section lists a library: by its name before by its package, and by a facade last. -/
def findIn? (entries : Entries) (name : String) : Option Listing :=
  if (entries.lookup name).isSome then some (.direct name)
  else
    match entries.find? (·.2.package? == some name) with
    | some (key, _) => some (.direct key)
    | none => do
      -- A facade has modules for the libraries of its family only.
      let module_ ← moduleName? name
      let facade ← facades.find? fun facade => (entries.lookup facade).isSome
      return .module facade module_

/-- The entries of a section; only a table is one. -/
def section? (document : Document) (name : String) : Option Entries :=
  match document.get? name with
  | some (.table _ entries) => some entries
  | _ => none

/-- How a manifest lists a library. -/
def find (document : Document) (name : String) : Listing :=
  (sections.findSome? fun section_ => section? document section_ >>= (findIn? · name)).getD
    (.direct name)

/-- The path by which a program with this manifest names a library. -/
def path? (document : Document) (name : String) : Option (List Tree) := (find document name).path?

/-- A path as text without spaces. -/
def pathText (path : List Tree) : String := String.join (path.map Tree.text)

end Manifest

end Introspect
