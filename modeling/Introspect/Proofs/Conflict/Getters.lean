import Introspect.Proofs.Hierarchy
import Introspect.Proofs.Profile.Settlement
import Introspect.Value
import Mathlib

/-!
# Which getter wins

Of several getters of a property the one with the narrowest return type wins. The candidates are
compared one after the other, each with the winner so far; where the hierarchy is layered, the
outcome is that of comparing each with each, so the order in which they come does not matter.

* `Source.Comparable` — one of two getters is the narrower, or both return truth values.
* `Source.Leads` — a getter is the winner among those that were met.

Main results:

* `exists_betterGetter_iff`: two getters can be compared exactly when they are comparable.
* `Leads.better` and `Leads.run`: one comparison, and all of them, leave a winner in the lead.
* `chooseGetter_least`: the winner is the least, in whatever order the candidates come.
-/

namespace Introspect

variable {V : Type} {source : Source V}

/-- A run of steps succeeds when none of its steps fails where the steps before have led. -/
theorem exists_foldlM_eq_ok_iff {α β ε : Type} {step : α → β → Except ε α} {items : List β}
    {start : α} :
    (∃ final, items.foldlM step start = .ok final) ↔
      ∀ before item after state, items = before ++ item :: after →
        before.foldlM step start = .ok state → ∃ next, step state item = .ok next := by
  constructor
  · -- a step that failed would end the run before its last item
    rintro ⟨final, hFinal⟩ before item after state hItems hState
    cases hItem : step state item with
    | ok next => exact ⟨next, rfl⟩
    | error cause =>
      have hFails := Source.foldlM_eq_error_iff.mpr
        ⟨before, item, after, state, hItems, hState, hItem⟩
      rw [hFinal] at hFails
      cases hFails
  · intro hSteps
    cases hRun : items.foldlM step start with
    | ok final => exact ⟨final, rfl⟩
    | error cause =>
      -- the first step that fails is one that does not fail
      obtain ⟨before, item, after, state, hItems, hState, hItem⟩ :=
        Source.foldlM_eq_error_iff.mp hRun
      obtain ⟨next, hNext⟩ := hSteps before item after state hItems hState
      rw [hItem] at hNext
      cases hNext

/-- The method is named `isX`. -/
def Candidate.NamedIs (candidate : Candidate V) : Prop :=
  "is".toList <+: candidate.method.name.toList

namespace Source

/-! ## Comparisons -/

/-- Of two getters one returns the narrower type; where both return the same type, it is that of
truth values. -/
def Comparable (source : Source V) (held offered : Candidate V) : Prop :=
  (source.isAssignable (offered.erasedReturn source) (held.erasedReturn source) = true ∨
    source.isAssignable (held.erasedReturn source) (offered.erasedReturn source) = true) ∧
  (offered.erasedReturn source = held.erasedReturn source → offered.erasedReturn source = .bool)

variable {held offered kept : Candidate V}

/-- How a comparison ends: of two truth values a method named `isX` is kept, and otherwise the
narrower one. -/
theorem betterGetter_eq_ok_iff :
    source.betterGetter held offered = .ok kept ↔
      (offered.erasedReturn source = held.erasedReturn source ∧
        offered.erasedReturn source = .bool ∧
        (offered.NamedIs ∧ kept = offered ∨ ¬offered.NamedIs ∧ kept = held)) ∨
      (offered.erasedReturn source ≠ held.erasedReturn source ∧
        source.isAssignable (offered.erasedReturn source) (held.erasedReturn source) = true ∧
        kept = held) ∨
      (offered.erasedReturn source ≠ held.erasedReturn source ∧
        source.isAssignable (offered.erasedReturn source) (held.erasedReturn source) = false ∧
        source.isAssignable (held.erasedReturn source) (offered.erasedReturn source) = true ∧
        kept = offered) := by
  unfold betterGetter Candidate.NamedIs
  rw [← List.isPrefixOf_iff_prefix]
  -- of the name no more matters than how it begins
  generalize "is".toList.isPrefixOf offered.method.name.toList = named
  -- whether the types are the same, and if not, which of them can stand for the other
  by_cases hSame : offered.erasedReturn source = held.erasedReturn source
  · by_cases hBool : offered.erasedReturn source = .bool
    · have hHeld : held.erasedReturn source = .bool := hSame ▸ hBool
      cases named with
      | true => simpa [hBool, hHeld] using eq_comm
      | false => simpa [hBool, hHeld] using eq_comm
    · have hHeld : held.erasedReturn source ≠ .bool := hSame ▸ hBool
      simp [hSame, hHeld]
  · by_cases hHeld : source.isAssignable (offered.erasedReturn source)
        (held.erasedReturn source) = true
    · simpa [hSame, hHeld] using eq_comm
    · by_cases hOffered : source.isAssignable (held.erasedReturn source)
          (offered.erasedReturn source) = true
      · simpa [hSame, hHeld, hOffered] using eq_comm
      · simp [hSame, hHeld, hOffered]

/-- Two getters can be compared exactly when they are comparable. -/
theorem exists_betterGetter_iff :
    (∃ kept, source.betterGetter held offered = .ok kept) ↔ source.Comparable held offered := by
  constructor
  · rintro ⟨kept, hKept⟩
    -- of one type, or of two with the leader or the newcomer as the narrower one
    rcases betterGetter_eq_ok_iff.mp hKept with ⟨hSame, hBool, -⟩ | ⟨hOther, hHeld, -⟩ |
      ⟨hOther, -, hOffered, -⟩
    · -- equal types are assignable to each other
      exact ⟨Or.inl (isAssignable_iff.mpr (Or.inl hSame)), fun _ => hBool⟩
    · exact ⟨Or.inl hHeld, fun hSame => absurd hSame hOther⟩
    · exact ⟨Or.inr hOffered, fun hSame => absurd hSame hOther⟩
  · rintro ⟨hNarrower, hEqual⟩
    by_cases hSame : offered.erasedReturn source = held.erasedReturn source
    · have hBool := hEqual hSame
      by_cases hNamed : offered.NamedIs
      · exact ⟨offered, betterGetter_eq_ok_iff.mpr
          (Or.inl ⟨hSame, hBool, Or.inl ⟨hNamed, rfl⟩⟩)⟩
      · exact ⟨held, betterGetter_eq_ok_iff.mpr
          (Or.inl ⟨hSame, hBool, Or.inr ⟨hNamed, rfl⟩⟩)⟩
    · by_cases hHeld : source.isAssignable (offered.erasedReturn source)
          (held.erasedReturn source) = true
      · exact ⟨held, betterGetter_eq_ok_iff.mpr (Or.inr (Or.inl ⟨hSame, hHeld, rfl⟩))⟩
      · have hOffered := hNarrower.resolve_left hHeld
        exact ⟨offered, betterGetter_eq_ok_iff.mpr
          (Or.inr (Or.inr ⟨hSame, Bool.eq_false_iff.mpr hHeld, hOffered, rfl⟩))⟩

/-! ## The winner so far -/

/-- A getter is in the lead among those that were met: its return type is the least; no other of
them returns that type, unless it is that of truth values; and among truth values a method named
`isX` goes first. -/
structure Leads (source : Source V) (met : List (Candidate V)) (winner : Candidate V) : Prop where
  mem : winner ∈ met
  least : ∀ candidate ∈ met,
    source.isAssignable (candidate.erasedReturn source) (winner.erasedReturn source) = true
  alone : winner.erasedReturn source ≠ .bool →
    met.filter (·.erasedReturn source = winner.erasedReturn source) = [winner]
  named : winner.erasedReturn source = .bool →
    (∃ candidate ∈ met, candidate.erasedReturn source = .bool ∧ candidate.NamedIs) →
      winner.NamedIs

/-- The first getter is in the lead when no other was met. -/
theorem leads_first (first : Candidate V) : source.Leads [first] first := by
  refine ⟨List.mem_cons_self, ?_, ?_, ?_⟩
  · intro candidate hCandidate
    obtain rfl : candidate = first := by simpa using hCandidate
    exact isAssignable_iff.mpr (Or.inl rfl)
  · intro _
    simp
  -- whoever is named `isX` among one is that one
  · rintro - ⟨candidate, hCandidate, -, hNamed⟩
    obtain rfl : candidate = first := by simpa using hCandidate
    exact hNamed

variable {met : List (Candidate V)}

/-- Only one of those that were met is as narrow as a newcomer that is narrower than their leader. -/
theorem Leads.ne_of_narrower (hSource : source.Layered) (h : source.Leads met held)
    (hOther : offered.erasedReturn source ≠ held.erasedReturn source)
    (hOffered : source.isAssignable (held.erasedReturn source)
      (offered.erasedReturn source) = true)
    {candidate : Candidate V} (hMet : candidate ∈ met) :
    candidate.erasedReturn source ≠ offered.erasedReturn source := by
  intro hSame
  -- the leader would be as narrow as the newcomer, and the other way round
  have hHeld : source.isAssignable (offered.erasedReturn source)
      (held.erasedReturn source) = true := by
    rw [← hSame]
    exact h.least candidate hMet
  exact hOther (hSource.isAssignable_antisymm hOffered hHeld)

/-- **One comparison** leaves a getter in the lead among all that were met until then. -/
theorem Leads.better (hSource : source.Layered) (h : source.Leads met held)
    (hBetter : source.betterGetter held offered = .ok kept) :
    source.Leads (met ++ [offered]) kept := by
  rcases betterGetter_eq_ok_iff.mp hBetter with ⟨hSame, hBool, hNamed⟩ | ⟨hOther, hHeld, rfl⟩ |
    ⟨hOther, -, hOffered, rfl⟩
  · -- two truth values: whoever is kept returns what the leader returned
    have hHeldBool : held.erasedReturn source = .bool := hSame ▸ hBool
    have hKeptBool : kept.erasedReturn source = .bool := by
      rcases hNamed with ⟨-, rfl⟩ | ⟨-, rfl⟩
      · exact hBool
      · exact hHeldBool
    refine ⟨?_, ?_, fun hNot => absurd hKeptBool hNot, fun _ hExists => ?_⟩
    · rcases hNamed with ⟨-, rfl⟩ | ⟨-, rfl⟩
      · simp
      · exact List.mem_append_left _ h.mem
    · intro candidate hCandidate
      rw [hKeptBool]
      rcases List.mem_append.mp hCandidate with hMet | hNew
      · rw [← hHeldBool]
        exact h.least candidate hMet
      · obtain rfl : candidate = offered := by simpa using hNew
        rw [hBool]
        exact isAssignable_iff.mpr (Or.inl rfl)
    · rcases hNamed with ⟨hIs, rfl⟩ | ⟨hNot, rfl⟩
      · exact hIs
      · -- the newcomer is not the one that is named `isX`
        obtain ⟨candidate, hCandidate, hCandidateBool, hIs⟩ := hExists
        refine h.named hHeldBool ⟨candidate, ?_, hCandidateBool, hIs⟩
        rcases List.mem_append.mp hCandidate with hMet | hNew
        · exact hMet
        · obtain rfl : candidate = offered := by simpa using hNew
          exact absurd hIs hNot
  · -- the leader is the narrower one, and keeps the lead
    refine ⟨List.mem_append_left _ h.mem, ?_, fun hNot => ?_, fun hBool hExists => ?_⟩
    · intro candidate hCandidate
      rcases List.mem_append.mp hCandidate with hMet | hNew
      · exact h.least candidate hMet
      · obtain rfl : candidate = offered := by simpa using hNew
        exact hHeld
    · -- others of its type are not among those that were met, and the newcomer has another type
      rw [List.filter_append, h.alone hNot]
      simp [hOther]
    · obtain ⟨candidate, hCandidate, hCandidateBool, hIs⟩ := hExists
      refine h.named hBool ⟨candidate, ?_, hCandidateBool, hIs⟩
      rcases List.mem_append.mp hCandidate with hMet | hNew
      · exact hMet
      · obtain rfl : candidate = offered := by simpa using hNew
        exact absurd (hCandidateBool.trans hBool.symm) hOther
  · -- the newcomer is narrower than the leader, and so than all that the leader has beaten
    have hNone : ∀ candidate ∈ met, candidate.erasedReturn source ≠ kept.erasedReturn source :=
      fun candidate hMet => h.ne_of_narrower hSource hOther hOffered hMet
    refine ⟨by simp, ?_, fun _ => ?_, fun hBool hExists => ?_⟩
    · intro candidate hCandidate
      rcases List.mem_append.mp hCandidate with hMet | hNew
      · exact hSource.isAssignable_trans hOffered (h.least candidate hMet)
      · obtain rfl : candidate = kept := by simpa using hNew
        exact isAssignable_iff.mpr (Or.inl rfl)
    · -- nobody that was met returns what the newcomer returns
      have hNobody : met.filter (·.erasedReturn source = kept.erasedReturn source) = [] :=
        List.filter_eq_nil_iff.mpr fun candidate hMet => by simpa using hNone candidate hMet
      rw [List.filter_append, hNobody]
      simp
    · obtain ⟨candidate, hCandidate, hCandidateBool, hIs⟩ := hExists
      rcases List.mem_append.mp hCandidate with hMet | hNew
      · exact absurd (hCandidateBool.trans hBool.symm) (hNone candidate hMet)
      · obtain rfl : candidate = kept := by simpa using hNew
        exact hIs

/-- **All comparisons** leave a getter in the lead among all candidates. -/
theorem Leads.run (hSource : source.Layered) {rest : List (Candidate V)} {winner : Candidate V}
    (h : source.Leads met held) (hRun : rest.foldlM source.betterGetter held = .ok winner) :
    source.Leads (met ++ rest) winner :=
  invariant_of_foldlM source.Leads (fun hLeads hBetter => hLeads.better hSource hBetter) h hRun

/-- The getter that is chosen is in the lead among all candidates of the claim. -/
theorem leads_of_chooseGetter (hSource : source.Layered) {claim : Claim V} {winner : Candidate V}
    (h : source.chooseGetter claim = .ok winner) : source.Leads claim.candidates winner :=
  Leads.run hSource (leads_first claim.first) h

/-- Two getters in the lead among the same candidates return the same type, and are one and the same
unless it is that of truth values. -/
theorem Leads.unique (hSource : source.Layered) {others : List (Candidate V)}
    {winner other : Candidate V} (h : source.Leads met winner) (h' : source.Leads others other)
    (hPerm : others.Perm met) :
    other.erasedReturn source = winner.erasedReturn source ∧
      (winner.erasedReturn source ≠ .bool → other = winner) := by
  -- each is narrower than the other, and two such types are the same
  have hSame : other.erasedReturn source = winner.erasedReturn source :=
    hSource.isAssignable_antisymm (h'.least winner (hPerm.symm.mem_iff.mp h.mem))
      (h.least other (hPerm.mem_iff.mp h'.mem))
  refine ⟨hSame, fun hBool => ?_⟩
  -- both are the only one of their type
  have hAlone := h.alone hBool
  have hAlone' := h'.alone (hSame ▸ hBool)
  rw [hSame] at hAlone'
  have hSingle : [other].Perm [winner] := by
    rw [← hAlone, ← hAlone']
    exact hPerm.filter _
  simpa using hSingle

/-! ## The main result -/

/--
**The narrowest getter wins, in whatever order the getters come.** In a layered hierarchy the choice
succeeds exactly when each candidate is comparable with the winner among those before it. What the
winner returns can then stand for what any candidate returns; and if it is a truth value, and a
method named `isX` returns one, the winner is named so. Any other order of the same candidates that
succeeds has a winner of the same return type, and the same winner unless that is a truth value.
-/
theorem chooseGetter_least (hSource : source.Layered) (claim : Claim V) :
    ((∃ winner, source.chooseGetter claim = .ok winner) ↔
      ∀ before candidate after running, claim.rest = before ++ candidate :: after →
        source.chooseGetter { claim with rest := before } = .ok running →
          source.Comparable running candidate) ∧
    ∀ winner, source.chooseGetter claim = .ok winner →
      winner ∈ claim.candidates ∧
      (∀ candidate ∈ claim.candidates, source.isAssignable (candidate.erasedReturn source)
        (winner.erasedReturn source) = true) ∧
      (winner.erasedReturn source = .bool →
        (∃ candidate ∈ claim.candidates,
          candidate.erasedReturn source = .bool ∧ candidate.NamedIs) → winner.NamedIs) ∧
      ∀ (reordered : Claim V) (other : Candidate V),
        reordered.candidates.Perm claim.candidates →
        source.chooseGetter reordered = .ok other →
          other.erasedReturn source = winner.erasedReturn source ∧
            (winner.erasedReturn source ≠ .bool → other = winner) := by
  constructor
  · simp only [← exists_betterGetter_iff]
    exact exists_foldlM_eq_ok_iff
  · intro winner hWinner
    -- being in the lead does not depend on the order of the candidates
    have hLeads := leads_of_chooseGetter hSource hWinner
    refine ⟨hLeads.mem, hLeads.least, hLeads.named, ?_⟩
    intro reordered other hPerm hOther
    exact hLeads.unique hSource (leads_of_chooseGetter hSource hOther) hPerm

end Source

/-! ## A sample -/

namespace Sample

def number : TypeName := ⟨"Number"⟩

def labeled : TypeName := ⟨"Labeled"⟩

def integer : TypeName := ⟨"Integer"⟩

/-- Integers are numbers, and they have a label. -/
def numbers : Catalog Value :=
  ⟨[.plain number .concrete, .plain labeled .contract,
    { Description.plain integer .concrete with
      superclass? := some (.named number), interfaces := [.named labeled] }]⟩

/-- Only integers have supertypes, and those have none. -/
theorem numbers_layered : numbers.toSource.Layered := by
  have hInteger : ∀ {type other}, numbers.toSource.Extends type other →
      type = integer ∧ other ≠ integer := by
    intro type other hExtends
    obtain ⟨description, hMember, rfl, hOther⟩ := Source.exists_mem_of_extends hExtends
    simp only [numbers, List.mem_cons, List.not_mem_nil, or_false] at hMember
    rcases hMember with rfl | rfl | rfl
    · cases hOther
    · cases hOther
    · refine ⟨rfl, ?_⟩
      rintro rfl
      revert hOther
      decide
  -- one reference is above another one only at an integer
  refine .of_rank (fun type => if type = integer then 0 else 1) ?_ ?_
  · intro type other hExtends
    obtain ⟨hType, hOther⟩ := hInteger hExtends
    simp [hType, hOther]
  · intro type other hExtends
    obtain ⟨rfl, -⟩ := hInteger hExtends
    decide

/-- A method `getLimit` that returns a value of the type. -/
def limit (type : TypeName) : Candidate Value :=
  ⟨integer, { name := "getLimit", returns? := some (.named type), parameters := []
              isBridge := false, body? := none }⟩

/-- The limit as a number, as an integer and as something labeled, in this order. -/
def limits : Claim Value := ⟨"limit", limit number, [limit integer, limit labeled]⟩

/-- The same limits in the opposite order. -/
def limitsReversed : Claim Value := ⟨"limit", limit labeled, [limit integer, limit number]⟩

end Sample

namespace Source

/-- Numbers and what is labeled cannot be compared, but an integer in between settles it, from either
side. -/
theorem chooseGetter_least_limits :
    Sample.numbers.toSource.Layered ∧
      Sample.numbers.toSource.chooseGetter Sample.limits = .ok (Sample.limit Sample.integer) ∧
      Sample.numbers.toSource.isAssignable Sample.labeled Sample.integer = true ∧
      ∃ other, Sample.numbers.toSource.chooseGetter Sample.limitsReversed = .ok other ∧
        other = Sample.limit Sample.integer := by
  obtain ⟨-, hLeast⟩ := chooseGetter_least Sample.numbers_layered Sample.limits
  have hWinner : Sample.numbers.toSource.chooseGetter Sample.limits =
      .ok (Sample.limit Sample.integer) := by cbv
  obtain ⟨-, hNarrowest, -, hOrder⟩ := hLeast _ hWinner
  have hPerm : Sample.limitsReversed.candidates.Perm Sample.limits.candidates :=
    List.reverse_perm Sample.limits.candidates
  -- the other order is compared as well, and has an outcome
  obtain ⟨other, hOther⟩ :
      ∃ other, Sample.numbers.toSource.chooseGetter Sample.limitsReversed = .ok other :=
    ⟨Sample.limit Sample.integer, by cbv⟩
  refine ⟨Sample.numbers_layered, hWinner, ?_, other, hOther, ?_⟩
  · exact hNarrowest (Sample.limit Sample.labeled) (by simp [Claim.candidates, Sample.limits])
  · exact (hOrder _ other hPerm hOther).2 (by decide)

end Source

end Introspect
