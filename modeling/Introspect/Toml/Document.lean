import Introspect.Toml.Line

/-!
# Documents of TOML

Puts what the lines of a document say together. A table is begun once, by its header, by a header
of a table inside it, or by dotted keys; only a table that was begun by another's header may still
get one of its own, and it then stands where its own header stands. What keys give a value is never
changed or extended by other lines. Tables keep their entries in the order in which they were made.

* `Document.parse` reads a text.
-/

namespace Introspect.Toml

/-- What first made a table. -/
inductive Origin where
  /-- Its own header. -/
  | header
  /-- The header of a table inside it. -/
  | implied
  /-- Dotted keys. -/
  | dotted
  deriving DecidableEq, Repr

/-- What a key of a table stands for. -/
inductive Item where
  | value (value : Value)
  | table (origin : Origin) (entries : List (String × Item))
  /-- An array of tables. -/
  | tables (elements : List (List (String × Item)))
  deriving Repr, Inhabited

/-- The entries of a table, in order. -/
abbrev Entries := List (String × Item)

namespace Entries

/-- The entries with another item under a key that they have. -/
def replace (entries : Entries) (key : String) (item : Item) : Entries :=
  entries.map fun entry => if entry.1 == key then (key, item) else entry

/-- The entries without a key. -/
def erase (entries : Entries) (key : String) : Entries := entries.filter (·.1 != key)

/-- Changes the table that some keys lead to. Tables on the way that are not there are made; of an
array of tables the last element is meant. -/
def changeAt (change : Entries → Option Entries) : List String → Entries → Option Entries
  | [], entries => change entries
  | key :: keys, entries =>
    match entries.lookup key with
    -- a table on the way to a header may still get a header of its own
    | none => do return entries ++ [(key, .table .implied (← changeAt change keys []))]
    | some (.table origin inner) => do
      return entries.replace key (.table origin (← changeAt change keys inner))
    | some (.tables elements) =>
      match elements.getLast? with
      | some last => do
        let last ← changeAt change keys last
        return entries.replace key (.tables (elements.dropLast ++ [last]))
      | none => none
    | some (.value _) => none

/-- Gives a key, perhaps of a table inside this one, its value. The tables on the way must not have
a header, and the last of them must be one that dotted keys made. -/
def insert : List String → Value → Entries → Option Entries
  | [], _, _ => none
  | [key], value, entries =>
    if (entries.lookup key).isSome then none else some (entries ++ [(key, .value value)])
  | key :: keys, value, entries =>
    match entries.lookup key with
    | none => do return entries ++ [(key, .table .dotted (← insert keys value []))]
    | some (.table origin inner) => do
      if origin == .header || (keys.length == 1 && origin != .dotted) then none
      return entries.replace key (.table origin (← insert keys value inner))
    | some (.tables elements) =>
      match elements.getLast? with
      | some last => do
        if keys.length == 1 then none
        return entries.replace key (.tables (elements.dropLast ++ [← insert keys value last]))
      | none => none
    | some (.value _) => none

/-- Begins a table. -/
def beginTable (key : String) (entries : Entries) : Option Entries :=
  match entries.lookup key with
  | none => some (entries ++ [(key, .table .header [])])
  | some (.table .implied inner) =>
    -- The table moves to where its own header stands.
    some (entries.erase key ++ [(key, .table .header inner)])
  | some _ => none

/-- Begins one more element of an array of tables. -/
def beginElement (key : String) (entries : Entries) : Option Entries :=
  match entries.lookup key with
  | none => some (entries ++ [(key, .tables [[]])])
  | some (.tables elements) => some (entries.replace key (.tables (elements ++ [[]])))
  | some _ => none

end Entries

/-- A document: the entries that stand outside all other tables. -/
structure Document where
  entries : Entries
  deriving Repr, Inhabited

namespace Document

/-- A document, with the keys of the table that the next entries belong to. -/
structure Draft where
  entries : Entries
  present : List String

/-- What one more line makes of a draft. -/
def Draft.add (draft : Draft) : Line → Option Draft
  | .table keys => do
    let key ← keys.getLast?
    -- only the table of the last key is begun, those on the way are gone through
    let entries ← draft.entries.changeAt (Entries.beginTable key) keys.dropLast
    return { entries, present := keys }
  | .element keys => do
    let key ← keys.getLast?
    let entries ← draft.entries.changeAt (Entries.beginElement key) keys.dropLast
    return { entries, present := keys }
  | .entry keys value => do
    let entries ← draft.entries.changeAt (Entries.insert keys value) draft.present
    return { draft with entries }

/-- The document that some lines make. -/
def ofLines? (lines : List Line) : Option Document :=
  (lines.foldlM Draft.add ⟨[], []⟩).map fun draft => ⟨draft.entries⟩

/-- Reads the text of a document. -/
def parse (text : String) : Option Document := Line.ofText? text >>= ofLines?

/-- What a key of the document stands for. -/
def get? (document : Document) (key : String) : Option Item := document.entries.lookup key

end Document

end Introspect.Toml
