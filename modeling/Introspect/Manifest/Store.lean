import Introspect.Manifest

/-!
# Manifests that are kept

A manifest is a file that may be written again at any time. What was read from it is kept together
with the time at which it was last written, and is used as long as that time stays the same. It is
kept only after a use that succeeded.

* `Store.path?` asks for the path of a library.
-/

namespace Introspect.Manifest

open Code Toml

/-- A text, and when it was written. -/
structure File where
  text : String
  time : Int
  deriving DecidableEq, Repr

/-- The file that holds a manifest, if there is one, and what is kept of it. -/
structure Store where
  file? : Option File
  /-- A document, and when the file it was read from was written. -/
  kept? : Option (Document × Int)

namespace Store

/-- No file, and nothing kept. -/
def empty : Store := ⟨none, none⟩

/-- Writes the file. -/
def write (store : Store) (file : File) : Store := { store with file? := some file }

/-- The document of a file: what is kept if the file is no newer and no older, or else what can be
read. -/
def document? (store : Store) (file : File) : Option Document :=
  match store.kept? with
  | some (document, time) => if time == file.time then some document else Document.parse file.text
  | none => Document.parse file.text

/-- The path of a library, and what is kept from now on. Without a file, with one that is no
document, or with a path that cannot be spelled, there is none, and what was kept stays. -/
def path? (store : Store) (name : String) : Option (List Tree) × Store :=
  match store.file? with
  | none => (none, store)
  | some file =>
    match store.document? file with
    | none => (none, store)
    | some document =>
      match Manifest.path? document name with
      | none => (none, store)
      -- a document is kept only once a path was found with it
      | some path => (some path, { store with kept? := some (document, file.time) })

/-- One use of a store: the file may be written first, then a library is asked for. -/
structure Step where
  file? : Option File
  name : String
  deriving DecidableEq, Repr

/-- What a step answers, and the store after it. -/
def step (store : Store) (next : Step) : Option (List Tree) × Store :=
  let store := match next.file? with
    | some file => store.write file
    | none => store
  store.path? next.name

/-- What some steps answer, one after the other. -/
def answers : Store → List Step → List (Option (List Tree))
  | _, [] => []
  | store, next :: rest => (store.step next).1 :: answers (store.step next).2 rest

end Store

end Introspect.Manifest
