import Introspect.Proofs.Candidate.Collection
import Introspect.Proofs.Profile.Discovery

/-!
# Methods and fields of one chain

Fields are taken from all classes of a chain, for a profile as well as for a copy. Methods are taken
from a class only as far as the chain is climbed, and the climb ends at a class that is at the same
time an interface of one below it. What such a class extends counts for its fields and not for its
methods.

* `Source.Apart` — no class of a chain is an interface of one below it.

Main results:

* `chain_methods_count`: whose methods count among the classes of a chain.
* `inherited_getter_ignored`: a title that is read through a field, although the class of that field
  has a getter for it.
-/

namespace Introspect.Source

open Relation

variable {V : Type} {source : Source V} {type : TypeName}

/-- No class is an interface of one that stands below it, however many references to interfaces lead
there. -/
def Apart (source : Source V) (classes : List (Described V)) : Prop :=
  classes.Pairwise fun lower upper => ¬source.Implements lower.1 upper.1

/-- The methods of a class count: each that is no bridge has a candidate of its signature. -/
def MethodsCount (source : Source V) (type : TypeName) (owner : Described V) : Prop :=
  ∀ method ∈ owner.2.methods, method.isBridge = false →
    ∃ candidate ∈ source.candidates type,
      candidate.signatureKey source = Candidate.signatureKey source ⟨owner.1, method⟩

/-- Where a list is cut in two ways, the item at the second cut stands in the lower part of the first,
or it is the first of the upper part, or it stands behind that one. -/
theorem cases_of_cuts {α : Type} {low high lower upper : List α} {item : α}
    (hCuts : low ++ high = lower ++ item :: upper) :
    item ∈ low ∨ high.head? = some item ∨
      ∃ first between, high.head? = some first ∧ lower = low ++ first :: between := by
  rcases List.append_eq_append_iff.mp hCuts with ⟨below, hLower, hHigh⟩ | ⟨above, hLow, hItem⟩
  -- the cut inside the lower part comes first, or at its end, or behind what it holds
  · cases below with
    | nil => exact .inr (.inl (by rw [hHigh]; rfl))
    | cons first between => exact .inr (.inr ⟨first, between, by rw [hHigh]; rfl, hLower⟩)
  · cases above with
    | nil => exact .inr (.inl (by rw [List.nil_append] at hItem; rw [← hItem]; rfl))
    | cons first between =>
      obtain ⟨rfl, -⟩ := List.cons.inj hItem
      exact .inl (by rw [hLow]; exact List.mem_append_right _ List.mem_cons_self)

/-- **Whose methods count.** A chain of classes, all of whose fields count for a profile and for a
copy, is climbed up to the first class that is an interface of one below. The methods of the climbed
classes and of their interfaces count; no candidate is declared by another class of the chain. So the
methods of a class count whenever no class below it is an interface of one that is lower still. -/
theorem chain_methods_count (source : Source V) (type : TypeName) :
    ∃ climbed rest, source.superclassChain [] type = climbed ++ rest ∧
      source.Apart climbed ∧
      (∀ barrier ∈ rest.head?, ∃ lower ∈ climbed, source.Implements lower.1 barrier.1) ∧
      (∀ owner ∈ source.superclassChain [] type,
        (∀ field ∈ owner.2.fields, (owner.1, field) ∈ source.chainFields type) ∧
        ((∃ lower ∈ climbed, source.Implements lower.1 owner.1) →
          source.MethodsCount type owner) ∧
        ((¬∃ lower ∈ climbed, source.Implements lower.1 owner.1) →
          ∀ candidate ∈ source.candidates type, candidate.declaring ≠ owner.1)) ∧
      ∀ {lower owner upper}, source.superclassChain [] type = lower ++ owner :: upper →
        source.Apart lower → source.MethodsCount type owner := by
  -- the climb starts with nothing visited, so that only a class of the chain can end it
  have hClosed := source.closed_nil Description.interfaceNames []
  obtain ⟨climbed, rest, hChain, hClimbs⟩ : ∃ climbed rest,
      source.superclassChain [] type = climbed ++ rest ∧
        source.Climbs [] climbed rest (source.methodOwners [] type) :=
    climbs_methodOwners hClosed (List.nil_subset [])
  have hEnded : ∀ barrier ∈ rest.head?, ∃ lower ∈ climbed,
      source.Implements lower.1 barrier.1 := by
    intro barrier hBarrier
    exact (hClimbs.ended barrier hBarrier).resolve_left List.not_mem_nil
  have hCount : ∀ {owner}, owner ∈ source.superclassChain [] type →
      (∃ lower ∈ climbed, source.Implements lower.1 owner.1) → source.MethodsCount type owner := by
    intro owner hOwner hLeads method hMethod hNoBridge
    have hVisited : owner ∈ source.methodOwners [] type :=
      hClimbs.mem_iff.mpr ⟨(of_mem_superclassChain hOwner).1, List.not_mem_nil, hLeads⟩
    exact exists_candidate_of_owner hVisited hMethod hNoBridge
  refine ⟨climbed, rest, hChain, hClimbs.apart, hEnded, ?_, ?_⟩
  · intro owner hOwner
    refine ⟨fun field hField => ?_, hCount hOwner, fun hUnreached candidate hCandidate hSame => ?_⟩
    · exact mem_chainFields_iff.mpr ⟨owner, hOwner, rfl, hField⟩
    · -- the type that declares a candidate is visited
      obtain ⟨visited, hVisited, hOwn⟩ := exists_owner_of_mem_candidates hCandidate
      rw [declaring_of_mem_ownCandidates hOwn] at hSame
      exact hUnreached (hSame ▸ (hClimbs.mem_iff.mp hVisited).2.2)
  · intro lower owner upper hSplit hApart
    have hOwner : owner ∈ source.superclassChain [] type := by
      rw [hSplit]
      exact List.mem_append_right _ List.mem_cons_self
    refine hCount hOwner ?_
    -- the class was climbed, or it is the one at which the climb ended, or it stands above that one
    rcases cases_of_cuts (hChain.symm.trans hSplit) with
      hClimbed | hBarrier | ⟨barrier, between, hBarrier, rfl⟩
    · exact ⟨owner, hClimbed, .refl⟩
    · exact hEnded owner hBarrier
    · -- the class that ends the climb is below, and an interface of one that is lower still
      obtain ⟨lowest, hLowest, hLeads⟩ := hEnded barrier hBarrier
      have hCross := (List.pairwise_append.mp hApart).2.2
      exact absurd hLeads (hCross lowest hLowest barrier List.mem_cons_self)

end Introspect.Source

/-! ## A sample -/

namespace Introspect.Sample

def titled : TypeName := ⟨"Titled"⟩

def printable : TypeName := ⟨"Printable"⟩

def report : TypeName := ⟨"Report"⟩

def letter : TypeName := ⟨"Letter"⟩

def addressed : TypeName := ⟨"Addressed"⟩

/-- What has a title also has a getter of it. -/
def titledDescription : Description Value :=
  { Description.plain titled .concrete with
    methods := [method "getTitle" (some ⟨"String"⟩) []]
    fields := [field titled "title" ⟨"String"⟩ true] }

def printableDescription : Description Value :=
  { Description.plain printable .concrete with superclass? := some (.named titled) }

/-- A report extends what can be printed, and says once more that it can be printed. -/
def reportDescription : Description Value :=
  { Description.plain report .concrete with
    superclass? := some (.named printable), interfaces := [.named printable] }

/-- A letter extends what can be printed, and has an interface of its own. -/
def letterDescription : Description Value :=
  { Description.plain letter .concrete with
    superclass? := some (.named printable), interfaces := [.named addressed] }

/-- Reports and letters, and what they extend. -/
def reports : Source Value :=
  (Catalog.mk [titledDescription, printableDescription, reportDescription,
    letterDescription]).toSource

/-- From a letter, references to interfaces lead to its own interface only. -/
theorem eq_of_implements_letter {type : TypeName} (h : reports.Implements letter type) :
    type = letter ∨ type = addressed := by
  induction h with
  | refl => exact .inl rfl
  -- along the references: only the letter refers to an interface
  | tail _ hRefers ih =>
    obtain ⟨description, hSome, hUpper⟩ := hRefers
    rcases ih with rfl | rfl
    · have hLetter : reports.describe letter = some letterDescription := by cbv
      obtain rfl := Option.some.inj (hLetter.symm.trans hSome)
      exact .inr (List.mem_singleton.mp hUpper)
    · -- nothing is described of the interface
      have hNone : reports.describe addressed = none := by cbv
      cases hNone.symm.trans hSome

end Introspect.Sample

namespace Introspect.Source

/-- Below what has a title stand a letter and what can be printed, which is no interface of the
letter. So the getter of the title counts for a letter. -/
theorem chain_methods_count_letter :
    Sample.reports.superclassChain [] Sample.letter =
        [(Sample.letter, Sample.letterDescription),
            (Sample.printable, Sample.printableDescription)] ++
          (Sample.titled, Sample.titledDescription) :: [] ∧
      Sample.reports.Implements Sample.letter Sample.addressed ∧
      Sample.reports.Apart [(Sample.letter, Sample.letterDescription),
        (Sample.printable, Sample.printableDescription)] ∧
      Sample.reports.MethodsCount Sample.letter (Sample.titled, Sample.titledDescription) := by
  have hChain : Sample.reports.superclassChain [] Sample.letter =
      [(Sample.letter, Sample.letterDescription),
          (Sample.printable, Sample.printableDescription)] ++
        (Sample.titled, Sample.titledDescription) :: [] := by cbv
  have hInterface : Sample.reports.Implements Sample.letter Sample.addressed :=
    .single ⟨Sample.letterDescription, by cbv, List.mem_cons_self⟩
  have hApart : Sample.reports.Apart [(Sample.letter, Sample.letterDescription),
      (Sample.printable, Sample.printableDescription)] := by
    refine List.pairwise_pair.mpr fun hImplements => ?_
    rcases Sample.eq_of_implements_letter hImplements with h | h
    · exact absurd h (by decide)
    · exact absurd h (by decide)
  obtain ⟨-, -, -, -, -, -, hCount⟩ := chain_methods_count Sample.reports Sample.letter
  exact ⟨hChain, hInterface, hApart, hCount hChain hApart⟩

/-- What can be printed has its title by the getter; a report, which extends it, reads the field, and
a copy does so as well. The getter stands in the class of the field, but it is no candidate, and no
other candidate has its signature. -/
theorem inherited_getter_ignored :
    (Sample.titled, Sample.titledDescription) ∈ Sample.reports.superclassChain [] Sample.report ∧
      ∃ getter ∈ Sample.titledDescription.methods, getter.isBridge = false ∧
        Sample.reports.getterProperty? ⟨Sample.titled, getter⟩ = some "title" ∧
        (∀ candidate ∈ Sample.reports.candidates Sample.report,
          candidate.signatureKey Sample.reports ≠
            Candidate.signatureKey Sample.reports ⟨Sample.titled, getter⟩) ∧
        ∃ field ∈ Sample.titledDescription.fields,
          (Sample.titled, field) ∈ Sample.reports.chainFields Sample.report ∧
          Sample.reports.profile Sample.report =
            .ok (Sample.profileOf Sample.reports Sample.report) ∧
          (Sample.profileOf Sample.reports Sample.report).readable.find? "title" =
            some (Sample.reports.fieldProperty Sample.report (Sample.titled, field)) := by
  have hChain : Sample.reports.superclassChain [] Sample.report =
      [(Sample.report, Sample.reportDescription), (Sample.printable, Sample.printableDescription),
        (Sample.titled, Sample.titledDescription)] := by cbv
  -- nothing is collected for a report, so no candidate can share the getter's signature
  have hNone : Sample.reports.candidates Sample.report = [] := by cbv
  have hOwner : (Sample.titled, Sample.titledDescription) ∈
      Sample.reports.superclassChain [] Sample.report := by
    rw [hChain]
    simp
  refine ⟨hOwner, _, List.mem_cons_self, rfl, by cbv, by simp [hNone], _, List.mem_cons_self, ?_,
    Sample.profile_eq_profileOf (by cbv), by cbv⟩
  exact mem_chainFields_iff.mpr ⟨_, hOwner, rfl, List.mem_cons_self⟩

end Introspect.Source
