import Introspect.Proofs.Candidate.Owners
import Introspect.Value
import Mathlib

/-!
# Collected methods

The candidates of a type are picked from the methods of the types that are visited, in the order of
the visits and, in one type, in the order of declaration. Of the methods with one signature that are
no bridges, the first is picked.

* `Source.declaredMethods` — the methods of some types, in order.
* `Source.FirstOfSignature` — no method before has the signature.

Main results:

* `mem_candidates_iff`: the candidates are the first methods of their signatures.
* `methods_collected`: which types are visited, and which of their methods are picked.
-/

namespace Introspect

variable {V : Type}

section KeepFirst

variable {α : Type} {key : α → String} {seen : List String} {items : List α} {item : α}

/-- What is kept is what comes before everything else with its key, if the key was not seen before. -/
theorem mem_keepFirst_iff :
    item ∈ keepFirst key seen items ↔
      key item ∉ seen ∧ ∃ before after, items = before ++ item :: after ∧
        ∀ other ∈ before, key other ≠ key item := by
  constructor
  · intro hKept
    refine ⟨(of_mem_keepFirst hKept).1, ?_⟩
    fun_induction keepFirst key seen items with
    | case1 => cases hKept
    | case2 seen first rest hFirst ih =>
      obtain ⟨before, after, rfl, hBefore⟩ := ih hKept
      refine ⟨first :: before, after, rfl, List.forall_mem_cons.mpr ⟨?_, hBefore⟩⟩
      -- the key of what is kept was not seen, that of the first item was
      exact fun hSame => (of_mem_keepFirst hKept).1 (hSame ▸ hFirst)
    | case3 seen first rest hFirst ih =>
      rcases List.mem_cons.mp hKept with rfl | hLater
      · exact ⟨[], rest, rfl, by simp⟩
      · obtain ⟨before, after, rfl, hBefore⟩ := ih hLater
        refine ⟨first :: before, after, rfl, List.forall_mem_cons.mpr ⟨?_, hBefore⟩⟩
        exact fun hSame => (of_mem_keepFirst hLater).1 (hSame ▸ List.mem_cons_self)
  · rintro ⟨hNew, before, after, rfl, hBefore⟩
    -- an item comes before or it does not, and only those of its own key matter
    induction before generalizing seen with
    | nil =>
      rw [List.nil_append, keepFirst, if_neg hNew]
      exact List.mem_cons_self
    | cons first before ih =>
      obtain ⟨hOther, hRest⟩ := List.forall_mem_cons.mp hBefore
      -- the first item has another key, so that it keeps none of this key out
      rw [List.cons_append, keepFirst]
      split
      · exact ih hNew hRest
      · have hStillNew : key item ∉ key first :: seen := by
          rw [List.mem_cons, not_or]
          exact ⟨fun hSame => hOther hSame.symm, hNew⟩
        exact List.mem_cons_of_mem _ (ih hStillNew hRest)

/-- Every key that was not seen before is kept. -/
theorem exists_mem_keepFirst (hItem : item ∈ items) (hNew : key item ∉ seen) :
    ∃ first ∈ keepFirst key seen items, key first = key item := by
  induction items generalizing seen with
  | nil => cases hItem
  | cons first rest ih =>
    -- the first item of the key is kept, wherever it stands
    rw [keepFirst]
    by_cases hSame : key first = key item
    · rw [if_neg (hSame ▸ hNew)]
      exact ⟨first, List.mem_cons_self, hSame⟩
    · have hRest : item ∈ rest :=
        (List.mem_cons.mp hItem).resolve_left fun hEq => hSame (hEq ▸ rfl)
      split
      · exact ih hRest hNew
      · have hStillNew : key item ∉ key first :: seen := by
          rw [List.mem_cons, not_or]
          exact ⟨fun hEq => hSame hEq.symm, hNew⟩
        obtain ⟨kept, hKept, hKey⟩ := ih hRest hStillNew
        exact ⟨kept, List.mem_cons_of_mem _ hKept, hKey⟩

end KeepFirst

namespace Source

variable {source : Source V} {type : TypeName} {owners : List (Described V)}
  {candidate : Candidate V}

/-- The methods of some types, each with the type that declares it, in order. -/
def declaredMethods (owners : List (Described V)) : List (Candidate V) :=
  owners.flatMap fun owner => owner.2.methods.map (⟨owner.1, ·⟩)

/-- A method of one of the types, no bridge, such that no method before it has its signature: none of
a type before, and none before it in its own type. Bridges do not count. -/
def FirstOfSignature (source : Source V) (owners : List (Described V)) (candidate : Candidate V) :
    Prop :=
  candidate.method.isBridge = false ∧
    ∃ before after, declaredMethods owners = before ++ candidate :: after ∧
      ∀ other ∈ before, other.method.isBridge = false →
        other.signatureKey source ≠ candidate.signatureKey source

/-- The candidates are picked from the methods that are no bridges. -/
theorem flatMap_ownCandidates (owners : List (Described V)) :
    owners.flatMap ownCandidates = (declaredMethods owners).filter (!·.method.isBridge) := by
  unfold declaredMethods ownCandidates
  rw [List.filter_flatMap]
  congr 1
  funext owner
  rw [List.filter_map]
  rfl

/-- **The candidates are the first methods of their signatures** in the types that are visited. -/
theorem mem_candidates_iff :
    candidate ∈ source.candidates type ↔
      source.FirstOfSignature (source.methodOwners [] type) candidate := by
  unfold candidates FirstOfSignature
  rw [mem_keepFirst_iff, flatMap_ownCandidates]
  -- bridges may stand in between: they are dropped before anything is picked
  constructor
  · rintro ⟨-, before, after, hSplit, hBefore⟩
    -- what comes before among the methods that are no bridges comes before among all of them
    obtain ⟨front, back, hDeclared, rfl, hBack⟩ := List.filter_eq_append_iff.mp hSplit
    obtain ⟨bridges, rest, rfl, hBridges, hNoBridge, -⟩ := List.filter_eq_cons_iff.mp hBack
    refine ⟨by simpa using hNoBridge, front ++ bridges, rest, by rw [hDeclared]; simp, ?_⟩
    intro other hOther hOtherNoBridge
    rcases List.mem_append.mp hOther with hFront | hBridge
    · exact hBefore other (List.mem_filter.mpr ⟨hFront, by simpa using hOtherNoBridge⟩)
    · have := hBridges other hBridge
      simp [hOtherNoBridge] at this
  · rintro ⟨hNoBridge, before, after, hDeclared, hBefore⟩
    refine ⟨List.not_mem_nil, before.filter (!·.method.isBridge),
      after.filter (!·.method.isBridge), ?_, ?_⟩
    · rw [hDeclared, List.filter_append, List.filter_cons_of_pos (by simpa using hNoBridge)]
    · intro other hOther
      obtain ⟨hFront, hOtherNoBridge⟩ := List.mem_filter.mp hOther
      exact hBefore other hFront (by simpa using hOtherNoBridge)

/-- A method that is no bridge, of a type that is visited, has a candidate of its signature. -/
theorem exists_candidate_of_owner {owner : Described V} {method : Method V}
    (hOwner : owner ∈ source.methodOwners [] type) (hMethod : method ∈ owner.2.methods)
    (hNoBridge : method.isBridge = false) :
    ∃ candidate ∈ source.candidates type,
      candidate.signatureKey source = Candidate.signatureKey source ⟨owner.1, method⟩ := by
  have hItem : (⟨owner.1, method⟩ : Candidate V) ∈
      (source.methodOwners [] type).flatMap ownCandidates := by
    refine List.mem_flatMap.mpr ⟨owner, hOwner, List.mem_map.mpr ⟨method, ?_, rfl⟩⟩
    exact List.mem_filter.mpr ⟨hMethod, by simpa using hNoBridge⟩
  exact exists_mem_keepFirst hItem List.not_mem_nil

/-- **Methods are collected from every type once, and the first of each signature is kept.** The
visits go class by class, each class with the interfaces that it leads to, breadth first, and no type
is visited twice, so they end however the references run. The candidates have different signatures;
they are those methods of the visited types, bridges apart, before which no other has their
signature; and each signature has one. -/
theorem methods_collected (source : Source V) (type : TypeName) :
    source.Collects [] (some type) (source.methodOwners [] type) ∧
      ((source.methodOwners [] type).map Prod.fst).Nodup ∧
      (source.methodOwners [] type).length ≤ source.known.length ∧
      ((source.candidates type).map (·.signatureKey source)).Nodup ∧
      (∀ candidate, candidate ∈ source.candidates type ↔
        source.FirstOfSignature (source.methodOwners [] type) candidate) ∧
      ∀ owner ∈ source.methodOwners [] type, ∀ method ∈ owner.2.methods,
        method.isBridge = false → ∃ candidate ∈ source.candidates type,
          candidate.signatureKey source = Candidate.signatureKey source ⟨owner.1, method⟩ := by
  have hClosed := source.closed_nil Description.interfaceNames []
  have hOnce := source.nodup_methodOwners [] type
  refine ⟨collects_methodOwners hClosed, hOnce, ?_, source.nodup_signatures type,
    fun _ => mem_candidates_iff, ?_⟩
  -- no type is visited twice, and each is described, so there are no more than descriptions
  · have hLength := length_le_known hOnce
      (isSome_of_mem_map fun owner hOwner => (of_mem_methodOwners hOwner).1)
    rwa [List.length_map] at hLength
  · intro owner hOwner method hMethod hNoBridge
    exact exists_candidate_of_owner hOwner hMethod hNoBridge

end Source

/-! ## A sample -/

namespace Sample

def gadget : TypeName := ⟨"Gadget"⟩

def device : TypeName := ⟨"Device"⟩

def drawable : TypeName := ⟨"Drawable"⟩

def clickable : TypeName := ⟨"Clickable"⟩

/-- A method that draws. -/
def draw (isBridge : Bool) : Method Value :=
  { name := "draw", returns? := none, parameters := [], isBridge, body? := none }

/-- A method that is called when something is clicked. -/
def click : Method Value :=
  { name := "click", returns? := none, parameters := [], isBridge := false, body? := none }

def deviceDescription : Description Value :=
  { Description.plain device .concrete with
    superclass? := some (.named gadget), interfaces := [.named clickable, .named drawable]
    methods := [draw false, click] }

/-- Gadgets and devices extend each other, and so do what can be drawn and what can be clicked. -/
def gadgets : Source Value :=
  (Catalog.mk
    [{ Description.plain gadget .concrete with
      superclass? := some (.named device), interfaces := [.named drawable]
      methods := [draw true] },
    deviceDescription,
    { Description.plain drawable .contract with
      interfaces := [.named clickable], methods := [draw false] },
    { Description.plain clickable .contract with interfaces := [.named drawable] }]).toSource

end Sample

namespace Source

/-- Everything is visited from a gadget, once and in spite of the circles. The gadget's own method is
a bridge, so what draws it is the method of what can be drawn, and not that of the device. -/
theorem methods_collected_gadget :
    (Sample.gadgets.methodOwners [] Sample.gadget).map Prod.fst =
      [Sample.gadget, Sample.drawable, Sample.clickable, Sample.device] ∧
    (Sample.device, Sample.deviceDescription) ∈ Sample.gadgets.methodOwners [] Sample.gadget ∧
    Sample.draw false ∈ Sample.deviceDescription.methods ∧
    (Sample.draw false).isBridge = false ∧
    ∃ candidate ∈ Sample.gadgets.candidates Sample.gadget,
      candidate.signatureKey Sample.gadgets =
        Candidate.signatureKey Sample.gadgets ⟨Sample.device, Sample.draw false⟩ ∧
      candidate.declaring = Sample.drawable := by
  have hOwner : (Sample.device, Sample.deviceDescription) ∈
      -- the device comes last of all, as the class that the gadget extends
      Sample.gadgets.methodOwners [] Sample.gadget := by
    have hLast : (Sample.gadgets.methodOwners [] Sample.gadget).getLast? =
        some (Sample.device, Sample.deviceDescription) := by cbv
    exact List.mem_of_getLast? hLast
  obtain ⟨-, -, -, -, -, hEach⟩ := methods_collected Sample.gadgets Sample.gadget
  obtain ⟨candidate, hCandidate, hKey⟩ := hEach _ hOwner _ List.mem_cons_self rfl
  refine ⟨by cbv, hOwner, List.mem_cons_self, rfl, candidate, hCandidate, hKey, ?_⟩
  have hBoth : Sample.gadgets.candidates Sample.gadget =
      [⟨Sample.drawable, Sample.draw false⟩, ⟨Sample.device, Sample.click⟩] := by cbv
  rw [hBoth] at hCandidate
  rcases List.mem_pair.mp hCandidate with rfl | rfl
  · rfl
  · -- clicking has another signature
    have hOther : (Candidate.signatureKey Sample.gadgets ⟨Sample.device, Sample.click⟩ ==
        Candidate.signatureKey Sample.gadgets ⟨Sample.device, Sample.draw false⟩) = false := by cbv
    exact absurd hKey (by simpa using hOther)

end Source

end Introspect
