import Introspect.Proofs.Hierarchy.Walk
import Introspect.Value

/-!
# Subtyping and reachability

Both questions about the hierarchy, whether one type can stand for another and whether a type is a
collection, are answered by a walk along supertype references. Whatever these references do, run in
circles or lead to types without a description, the walk ends and misses nothing. So the answers are
read off the references alone.

Main results:

* `isCollection_iff`: a type is a collection when it, or a type that supertype references lead to,
  is marked as one.
* `subtyping_reaches`: both answers, and the order that subtyping is on a hierarchy without circles.
-/

namespace Introspect.Source

open Relation

variable {V : Type} {source : Source V} {type other : TypeName}

/-- A type is no primitive unless it is described as one. -/
theorem isPrimitive_eq_false_iff :
    source.isPrimitive type = false ↔
      ∀ description, source.describe type = some description → description.kind ≠ .primitive := by
  unfold isPrimitive
  cases source.describe type with
  | none => simp
  | some description => simp

/-- A type is marked as a collection in its description, if anywhere. -/
theorem isMarkedCollection_iff :
    source.isMarkedCollection type = true ↔
      ∃ description, source.describe type = some description ∧ description.isCollection = true := by
  unfold isMarkedCollection
  rw [Option.any_eq_true]

/-- **A type is a collection** when it is marked as one, or when supertype references lead to a type
that is. -/
theorem isCollection_iff :
    source.isCollection type = true ↔
      ∃ other, ReflTransGen source.Extends type other ∧
        ∃ description, source.describe other = some description ∧
          description.isCollection = true := by
  unfold isCollection
  simp only [Bool.or_eq_true, List.any_eq_true, isMarkedCollection_iff, mem_strictSupertypes_iff]
  constructor
  · rintro (hSelf | ⟨other, hLeads, hMarked⟩)
    · exact ⟨type, .refl, hSelf⟩
    · exact ⟨other, hLeads.to_reflTransGen, hMarked⟩
  · rintro ⟨other, hLeads, hMarked⟩
    -- the walk leaves out the type it starts from, which is marked itself or is not
    rcases reflTransGen_iff_eq_or_transGen.mp hLeads with rfl | hLeads
    · exact .inl hMarked
    · exact .inr ⟨other, hLeads, hMarked⟩

/-- **Subtyping is reachability.** The walk behind it meets every type at most once. One type can
stand for another when it is the same, when the other is `object` and it is no primitive, or when one
or more supertype references lead to the other; it is a collection when it, or a type that they lead
to, is marked as one. So every type can stand for itself; where neither `object` nor a primitive has
supertypes, subtyping is transitive; and where the references run in no circle either, no two types
can stand for each other. -/
theorem subtyping_reaches (source : Source V) :
    (∀ type, ((source.walk Description.supertypeNames [] [type]).map Prod.fst).Nodup ∧
      (source.walk Description.supertypeNames [] [type]).length ≤ source.known.length) ∧
    (∀ target sub, source.isAssignable target sub = true ↔
      target = sub ∨
      (target = .object ∧ ∀ description, source.describe sub = some description →
        description.kind ≠ .primitive) ∨
      (target ≠ sub ∧ target ≠ .object ∧ TransGen source.Extends sub target)) ∧
    (∀ type, source.isCollection type = true ↔
      ∃ other, ReflTransGen source.Extends type other ∧
        ∃ description, source.describe other = some description ∧
          description.isCollection = true) ∧
    (∀ type, source.isAssignable type type = true) ∧
    (source.Rooted → ∀ a b c, source.isAssignable b a = true → source.isAssignable c b = true →
      source.isAssignable c a = true) ∧
    (source.Layered → ∀ a b, source.isAssignable b a = true → source.isAssignable a b = true →
      a = b) := by
  refine ⟨?_, ?_, fun _ => isCollection_iff, ?_, ?_, ?_⟩
  · intro type
    have hOnce := source.nodup_walk Description.supertypeNames [] [type]
    have hLength := length_le_known hOnce (isSome_of_mem_map fun met hMet => (of_mem_walk hMet).1)
    rw [List.length_map] at hLength
    exact ⟨hOnce, hLength⟩
  · intro target sub
    -- the middle case is there only for another type, so nothing has to be said of the first
    rw [isAssignable_iff, isPrimitive_eq_false_iff]
    by_cases hSame : target = sub
    · simp [hSame]
    · simp [hSame]
  · intro type
    exact isAssignable_iff.mpr (.inl rfl)
  · intro hRooted a b c hAB hBC
    exact hRooted.isAssignable_trans hAB hBC
  · intro hLayered a b hAB hBA
    exact hLayered.isAssignable_antisymm hAB hBA

end Introspect.Source

/-! ## A sample -/

namespace Introspect.Sample

def shown : TypeName := ⟨"Shown"⟩

def panel : TypeName := ⟨"Panel"⟩

def sequence : TypeName := ⟨"Sequence"⟩

def gallery : TypeName := ⟨"Gallery"⟩

/-- A gallery is a panel and a sequence, and both of them are shown. -/
def galleries : Catalog Value :=
  ⟨[.plain shown .contract,
    { Description.plain panel .concrete with interfaces := [.named shown] },
    { Description.plain sequence .contract with
      isCollection := true, interfaces := [.named shown] },
    { Description.plain gallery .concrete with
      superclass? := some (.named panel), interfaces := [.named sequence] }]⟩

/-- How many references are above a type of the galleries, at most. -/
def galleryRank (type : TypeName) : Nat := [gallery, panel, sequence, shown].idxOf type

/-- The galleries refer upwards only, and neither to nor from `object` or a primitive. -/
theorem galleries_layered : galleries.toSource.Layered := by
  have hAll : ∀ description ∈ galleries.descriptions, ∀ other ∈ description.supertypeNames,
      galleryRank description.type < galleryRank other ∧ description.type ≠ .object ∧
        galleries.toSource.isPrimitive description.type = false := by
    decide
  refine .of_rank galleryRank ?_ ?_
  · intro type other hExtends
    obtain ⟨description, hMember, rfl, hOther⟩ := Source.exists_mem_of_extends hExtends
    exact (hAll description hMember other hOther).1
  · intro type other hExtends
    obtain ⟨description, hMember, rfl, hOther⟩ := Source.exists_mem_of_extends hExtends
    exact (hAll description hMember other hOther).2

end Introspect.Sample

namespace Introspect.Source

open Relation

/-- A gallery is a panel, so it is shown as panels are, and it is a collection like every sequence;
no two of the types are the same to each other. -/
theorem subtyping_reaches_galleries :
    Sample.galleries.toSource.Layered ∧ Sample.galleries.toSource.Rooted ∧
      Sample.galleries.toSource.isAssignable Sample.shown Sample.gallery = true ∧
      Sample.galleries.toSource.isCollection Sample.gallery = true ∧
      ∀ type, Sample.galleries.toSource.isAssignable type Sample.gallery = true →
        Sample.galleries.toSource.isAssignable Sample.gallery type = true →
        Sample.gallery = type := by
  have hLayered := Sample.galleries_layered
  obtain ⟨-, hAssignable, hCollection, -, hTrans, hAntisymm⟩ :=
    subtyping_reaches Sample.galleries.toSource
  have hPanel : Sample.galleries.toSource.Extends Sample.gallery Sample.panel :=
    ⟨_, rfl, by decide⟩
  have hSequence : Sample.galleries.toSource.Extends Sample.gallery Sample.sequence :=
    ⟨_, rfl, by decide⟩
  have hShown : Sample.galleries.toSource.Extends Sample.panel Sample.shown := ⟨_, rfl, by decide⟩
  -- one reference is enough for each of the two steps, and the order does the rest
  have hBelow : Sample.galleries.toSource.isAssignable Sample.panel Sample.gallery = true :=
    (hAssignable _ _).mpr (.inr (.inr ⟨by decide, by decide, .single hPanel⟩))
  have hAbove : Sample.galleries.toSource.isAssignable Sample.shown Sample.panel = true :=
    (hAssignable _ _).mpr (.inr (.inr ⟨by decide, by decide, .single hShown⟩))
  exact ⟨hLayered, hLayered.isRooted, hTrans hLayered.isRooted _ _ _ hBelow hAbove,
    (hCollection _).mpr ⟨Sample.sequence, .single hSequence, _, rfl, rfl⟩,
    fun type => hAntisymm hLayered Sample.gallery type⟩

end Introspect.Source
