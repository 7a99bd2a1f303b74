import Introspect.Proofs.LiveValue.Success

/-!
# Laws of accessors

What is said about accesses along paths rests on what the bodies of single properties do. A body is
any function, so the laws that bodies are expected to keep are stated here, for one accessor, for the
two accessors of one property, and for the properties of one type.

* `Writer.Atomic`: a write that fails has changed nothing.
* `Accessor.IsLens`: reading and writing a property are two sides of one thing.
* `Profile.WritesAtomically` and `Profile.Lawful`: the same of all properties of a type.
* `Profile.Independent`: properties of different names have nothing to do with each other.
-/

namespace Introspect

variable {V : Type}

/-! ## One property -/

/-- A write body that fails leaves its instance as it was. -/
def Writer.Atomic (body : Writer V) : Prop :=
  ∀ instance_ value after cause, body instance_ value = (after, .error cause) → after = instance_

/-- The accessors that read and that write a property are two sides of one thing. -/
structure Accessor.IsLens (reading writing : Accessor V) : Prop where
  /-- What was written is read. -/
  put_get : ∀ {object value after}, writing.set object value = (after, .ok ()) →
    reading.get after = .ok value
  /-- Writing what was read changes nothing. -/
  get_put : ∀ {object value after}, reading.get object = .ok value →
    writing.set object value = (after, .ok ()) → after = object
  /-- The last of two writes is as if it had been the only one. -/
  put_put : ∀ {object first second between after}, writing.set object first = (between, .ok ()) →
    writing.set between second = (after, .ok ()) → writing.set object second = (after, .ok ())

/-! ## The properties of a type -/

namespace Profile

/-- The bodies that write properties are atomic. -/
def WritesAtomically (profile : Profile V) : Prop :=
  ∀ name property body, profile.writable.find? name = some property →
    property.accessor.writer? = some body → Writer.Atomic body

/-- The two accessors of every property that can be both read and written are two sides of one
thing. -/
def Lawful (profile : Profile V) : Prop :=
  ∀ name reading writing, profile.readable.find? name = some reading →
    profile.writable.find? name = some writing → reading.accessor.IsLens writing.accessor

/-- Properties of different names have nothing to do with each other. -/
structure Independent (profile : Profile V) : Prop where
  /-- Writing one of them leaves the other one as it reads. -/
  get_set : ∀ {name other reading object value after}, name ≠ other →
    profile.Sets name object value after → profile.readable.find? other = some reading →
    reading.accessor.get after = reading.accessor.get object
  /-- It does not matter which of them is written first. -/
  set_set : ∀ {name other object value content first second both both'}, name ≠ other →
    profile.Sets name object value first → profile.Sets other first content both →
    profile.Sets other object content second → profile.Sets name second value both' → both = both'

variable {profile : Profile V} {name : String} {object after : V} {value : Option V}

/-- A name under which a value is read has a getter. -/
theorem Gets.has_getter (h : profile.Gets name object value) : profile.has .getter name = true := by
  obtain ⟨property, hProperty, -⟩ := h
  show (profile.readable.find? name).isSome = true
  rw [hProperty]
  rfl

/-- What was written under a name is read there. -/
theorem Lawful.gets_of_sets (h : profile.Lawful) (hReadable : profile.has .getter name = true)
    (hSets : profile.Sets name object value after) : profile.Gets name after value := by
  obtain ⟨reading, hReading⟩ := Option.isSome_iff_exists.mp hReadable
  obtain ⟨writing, hWriting, hSet⟩ := hSets
  exact ⟨reading, hReading, (h name reading writing hReading hWriting).put_get hSet⟩

/-- Writing back what was read changes nothing. -/
theorem Lawful.eq_of_gets_of_sets (h : profile.Lawful) (hGets : profile.Gets name object value)
    (hSets : profile.Sets name object value after) : after = object := by
  obtain ⟨reading, hReading, hGet⟩ := hGets
  obtain ⟨writing, hWriting, hSet⟩ := hSets
  exact (h name reading writing hReading hWriting).get_put hGet hSet

/-- Of two writes under a name only the last one counts. -/
theorem Lawful.sets_of_sets {between : V} {first : Option V} (h : profile.Lawful)
    (hReadable : profile.has .getter name = true) (hFirst : profile.Sets name object first between)
    (hSecond : profile.Sets name between value after) : profile.Sets name object value after := by
  obtain ⟨reading, hReading⟩ := Option.isSome_iff_exists.mp hReadable
  obtain ⟨writing, hWriting, hSet⟩ := hFirst
  obtain ⟨writing', hWriting', hSet'⟩ := hSecond
  rw [hWriting] at hWriting'
  cases hWriting'
  exact ⟨writing, hWriting, (h name reading writing hReading hWriting).put_put hSet hSet'⟩

end Profile

end Introspect
