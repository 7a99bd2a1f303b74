import Introspect.Resolution

/-!
# Reading and writing along paths

A live value is read and written along a path of names, without indexes. A write below the first
segment takes a copy of the value there, writes into the copy, and writes the copy back; a value that
is absent on the way is made by the default constructor, unless the written value is itself absent.

* `Profile.readAt` reads the value at a path.
* `Profile.writeAt` writes one. It gives the object as the write leaves it, and the failure of the
  last step if there was one; an inquiry that fails has left the object alone.
-/

namespace Introspect.Profile

variable {V : Type}

/-- The name of a segment without an index; a live value cannot be followed into an index. -/
def plainName (segment : Segment) : Inquiry V String :=
  match segment.index? with
  | some _ => .fail (.indexedValue segment.text)
  | none => return segment.name

/-- Reads the property of an object. -/
def readStep (profile : Profile V) (object : V) (name : String) : Inquiry V (Option V) := do
  let property ← Inquiry.ofExcept (profile.readProperty name)
  match property.accessor.get object with
  | .ok value => return value
  | .error cause => .fail (.access name cause)

/-- Writes the property of an object. -/
def writeStep (profile : Profile V) (object : V) (name : String) (value : Option V) :
    Inquiry V (V × Except PropertyError Unit) := do
  let property ← Inquiry.ofExcept (profile.writeProperty name)
  match property.accessor.set object value with
  | (after, .ok ()) => return (after, .ok ())
  | (after, .error cause) => return (after, .error (.access name cause))

/-- Reads along some segments. -/
def readAlong (profile : Profile V) (object : V) (segment : Segment) :
    List Segment → Inquiry V (Option V)
  | [] => do profile.readStep object (← plainName segment)
  | next :: rest => do
    let name ← plainName segment
    match ← profile.readStep object name with
    | none => return none
    | some value =>
      let child ← profile.valueProfile name
      child.readAlong value next rest

/-- Reads the value at a path; a value that is absent on the way makes the answer absent. -/
def readAt (profile : Profile V) (object : V) (path : Path) : Inquiry V (Option V) :=
  profile.readAlong object path.head path.tail

/-- The value to write below: the one that is there, or a new one. -/
def valueBelow (child : Profile V) (name : String) : Option V → Inquiry V V
  | some value => return value
  | none => .note (.instantiating child.type name) (Inquiry.ofExcept child.newInstance)

/-- Writes along some segments. -/
def writeAlong (profile : Profile V) (object : V) (segment : Segment) (value : Option V) :
    List Segment → Inquiry V (V × Except PropertyError Unit)
  | [] => do profile.writeStep object (← plainName segment) value
  | next :: rest => do
    let name ← plainName segment
    let child ← profile.valueProfile name
    let current ← profile.readStep object name
    -- an absent value needs no instance on its way
    if current.isNone && value.isNone then return (object, .ok ())
    else
      let below ← child.valueBelow name current
      match ← child.writeAlong below next value rest with
      -- the copy is written back only after a write below that succeeded
      | (below, .ok ()) => profile.writeStep object name (some below)
      | (_, .error cause) => return (object, .error cause)

/-- Writes the value at a path. -/
def writeAt (profile : Profile V) (object : V) (path : Path) (value : Option V) :
    Inquiry V (V × Except PropertyError Unit) :=
  profile.writeAlong object path.head value path.tail

end Introspect.Profile
