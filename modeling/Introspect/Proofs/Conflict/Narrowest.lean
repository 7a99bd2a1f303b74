import Introspect.Proofs.Conflict.Getters
import Introspect.Proofs.Conflict.Setters

/-!
# The narrowest setter

Where no setter takes what the getter returns, the setters are compared one after the other, each with
the winner so far, and the one with the narrower parameter goes on. Subtyping is transitive as soon as
neither `object` nor a primitive has supertypes, so the last winner is narrower than whatever was
beaten on the way. A setter that takes what the getter returns ends the search wherever it stands, and
whatever has clashed before it.

* `Source.Nested` — what one of two setters takes can stand for what the other takes.
* `Source.Narrowest` — a setter takes what can stand for what any of those that were met takes.

Main results:

* `betterSetter_eq_ok_iff` and `betterSetter_eq_error_iff`: one comparison.
* `Narrowest.better` and `Narrowest.run`: one comparison, and all of them, leave the narrowest.
* `setters_unmatched_of_profile`: setters are ambiguous only where none takes what the getter returns.
* `chooseSetter_narrowest`: which setter wins, and which clash is reported.
-/

namespace Introspect.Source

variable {V : Type} {source : Source V} {type : TypeName} {wanted? : Option TypeName}
  {claim : Claim V} {held offered kept : Candidate V}

/-! ## Comparisons -/

/-- What one of two setters takes can stand for what the other takes. -/
def Nested (source : Source V) (held offered : Candidate V) : Prop :=
  source.isAssignable (held.erasedParameter source) (offered.erasedParameter source) = true ∨
    source.isAssignable (offered.erasedParameter source) (held.erasedParameter source) = true

/-- How a comparison ends: the newcomer goes on if it is as narrow, and otherwise the winner so far if
that one is. -/
theorem betterSetter_eq_ok_iff :
    source.betterSetter held offered = .ok kept ↔
      (source.isAssignable (held.erasedParameter source) (offered.erasedParameter source) = true ∧
        kept = offered) ∨
      (source.isAssignable (held.erasedParameter source) (offered.erasedParameter source) = false ∧
        source.isAssignable (offered.erasedParameter source) (held.erasedParameter source) = true ∧
        kept = held) := by
  unfold betterSetter
  -- whether the newcomer is as narrow, and if not, whether the winner so far is
  by_cases hOffered : source.isAssignable (held.erasedParameter source)
      (offered.erasedParameter source) = true
  · simpa [hOffered] using eq_comm
  · by_cases hHeld : source.isAssignable (offered.erasedParameter source)
        (held.erasedParameter source) = true
    · simpa [hOffered, hHeld] using eq_comm
    · simp [hOffered, hHeld]

/-- A comparison ends in a clash exactly where neither setter is as narrow as the other. The clash names
the type that declares the newcomer, and both parameters. -/
theorem betterSetter_eq_error_iff {clash : Clash} :
    source.betterSetter held offered = .error clash ↔
      ¬source.Nested held offered ∧
        clash = ⟨offered.declaring, held.erasedParameter source, offered.erasedParameter source⟩ := by
  -- the newcomer is tried as the narrower one first, and the winner so far after it
  unfold betterSetter Nested
  by_cases hOffered : source.isAssignable (held.erasedParameter source)
      (offered.erasedParameter source) = true
  · simp [hOffered]
  · by_cases hHeld : source.isAssignable (offered.erasedParameter source)
        (held.erasedParameter source) = true
    · simp [hOffered, hHeld]
    · simpa [hOffered, hHeld] using eq_comm

/-- Two setters can be compared exactly when they are nested. -/
theorem exists_betterSetter_iff :
    (∃ kept, source.betterSetter held offered = .ok kept) ↔ source.Nested held offered := by
  constructor
  · rintro ⟨kept, hKept⟩
    by_contra hNot
    -- setters that are not nested clash
    rw [betterSetter_eq_error_iff.mpr ⟨hNot, rfl⟩] at hKept
    cases hKept
  · intro hNested
    cases hBetter : source.betterSetter held offered with
    | ok kept => exact ⟨kept, rfl⟩
    | error clash => exact absurd hNested (betterSetter_eq_error_iff.mp hBetter).1

/-! ## The winner so far -/

/-- A setter is the narrowest of those that were met: what it takes can be handed to each of them. -/
structure Narrowest (source : Source V) (met : List (Candidate V)) (winner : Candidate V) :
    Prop where
  mem : winner ∈ met
  least : ∀ candidate ∈ met, source.isAssignable (candidate.erasedParameter source)
    (winner.erasedParameter source) = true

/-- The first setter is the narrowest when no other was met. -/
theorem narrowest_first (first : Candidate V) : source.Narrowest [first] first := by
  refine ⟨List.mem_cons_self, ?_⟩
  -- there is nothing else to compare it with than itself
  intro candidate hCandidate
  obtain rfl : candidate = first := by simpa using hCandidate
  exact isAssignable_iff.mpr (Or.inl rfl)

variable {met : List (Candidate V)}

/-- **One comparison** leaves the narrowest of all that were met until then. -/
theorem Narrowest.better (hSource : source.Rooted) (h : source.Narrowest met held)
    (hBetter : source.betterSetter held offered = .ok kept) :
    source.Narrowest (met ++ [offered]) kept := by
  rcases betterSetter_eq_ok_iff.mp hBetter with ⟨hOffered, rfl⟩ | ⟨-, hHeld, rfl⟩
  · -- the newcomer is as narrow as the winner so far, and so as all that this one has beaten
    refine ⟨by simp, ?_⟩
    intro candidate hCandidate
    rcases List.mem_append.mp hCandidate with hMet | hNew
    · exact hSource.isAssignable_trans hOffered (h.least candidate hMet)
    · obtain rfl : candidate = kept := by simpa using hNew
      exact isAssignable_iff.mpr (Or.inl rfl)
  · -- the winner so far is as narrow as the newcomer
    refine ⟨List.mem_append_left _ h.mem, ?_⟩
    intro candidate hCandidate
    rcases List.mem_append.mp hCandidate with hMet | hNew
    · exact h.least candidate hMet
    · obtain rfl : candidate = offered := by simpa using hNew
      exact hHeld

/-- **All comparisons** leave the narrowest of all candidates. -/
theorem Narrowest.run (hSource : source.Rooted) {rest : List (Candidate V)}
    {winner : Candidate V} (h : source.Narrowest met held)
    (hRun : rest.foldlM source.betterSetter held = .ok winner) :
    source.Narrowest (met ++ rest) winner :=
  invariant_of_foldlM source.Narrowest
    (fun hNarrowest hBetter => hNarrowest.better hSource hBetter) h hRun

/-! ## The choice -/

/-- No setter of the claim takes what the getter returns. -/
def Unmatched (source : Source V) (wanted? : Option TypeName)
    (candidates : List (Candidate V)) : Prop :=
  ∀ candidate ∈ candidates, wanted? ≠ some (candidate.erasedParameter source)

/-- Where no setter takes what the getter returns, the setters are compared. -/
theorem chooseSetter_of_unmatched (h : source.Unmatched wanted? claim.candidates) :
    source.chooseSetter wanted? claim = claim.rest.foldlM source.betterSetter claim.first := by
  -- the search that comes first ends without an answer
  have hNone : claim.candidates.find? (source.takesType wanted?) = none := by
    rw [List.find?_eq_none]
    intro candidate hCandidate hTakes
    exact h candidate hCandidate (beq_iff_eq.mp hTakes)
  rw [chooseSetter, hNone]
  rfl

/-- The first setter that takes what the getter returns is chosen, whatever stands around it. -/
theorem chooseSetter_of_match {before after : List (Candidate V)} {winner : Candidate V}
    (hCandidates : claim.candidates = before ++ winner :: after)
    (hBefore : source.Unmatched wanted? before)
    (hTakes : wanted? = some (winner.erasedParameter source)) :
    source.chooseSetter wanted? claim = .ok winner := by
  have hFound : claim.candidates.find? (source.takesType wanted?) = some winner := by
    rw [List.find?_eq_some_iff_append]
    refine ⟨beq_iff_eq.mpr hTakes, before, after, hCandidates, ?_⟩
    intro other hOther
    rw [Bool.not_eq_true']
    exact Bool.eq_false_iff.mpr fun hTaken => hBefore other hOther (beq_iff_eq.mp hTaken)
  rw [chooseSetter, hFound]

/-- Either some setter is the first that takes what the getter returns, or none does. -/
theorem exists_first_match_or_unmatched (source : Source V) (wanted? : Option TypeName)
    (candidates : List (Candidate V)) :
    (∃ before winner after, candidates = before ++ winner :: after ∧
      source.Unmatched wanted? before ∧
        wanted? = some (winner.erasedParameter source)) ∨
    source.Unmatched wanted? candidates := by
  cases hFind : candidates.find? (source.takesType wanted?) with
  | none =>
    right
    intro candidate hCandidate hTakes
    exact List.find?_eq_none.mp hFind candidate hCandidate (beq_iff_eq.mpr hTakes)
  | some winner =>
    left
    -- what stands before the first that is found does not take it
    obtain ⟨hTakes, before, after, hCandidates, hBefore⟩ := List.find?_eq_some_iff_append.mp hFind
    refine ⟨before, winner, after, hCandidates, ?_, beq_iff_eq.mp hTakes⟩
    intro other hOther hTaken
    have hPassed := hBefore other hOther
    rw [takesType, beq_iff_eq.mpr hTaken] at hPassed
    cases hPassed

/-- The candidates before one of the rest are candidates as well. -/
theorem unmatched_before {before after : List (Candidate V)} {candidate : Candidate V}
    (h : source.Unmatched wanted? claim.candidates)
    (hRest : claim.rest = before ++ candidate :: after) :
    source.Unmatched wanted? ({ claim with rest := before } : Claim V).candidates := by
  intro other hOther
  apply h other
  rcases List.mem_cons.mp hOther with rfl | hBefore
  · -- the first candidate is before all of the rest
    exact List.mem_cons_self
  · refine List.mem_cons_of_mem _ ?_
    rw [hRest]
    exact List.mem_append_left _ hBefore

/-- Clashes are met only among setters of which none takes what the getter returns. -/
theorem unmatched_of_clash {clash : Clash} (h : source.chooseSetter wanted? claim = .error clash) :
    source.Unmatched wanted? claim.candidates := by
  rcases exists_first_match_or_unmatched source wanted? claim.candidates with
    ⟨before, winner, after, hCandidates, hBefore, hTakes⟩ | hNone
  · -- with a first match the choice would have succeeded
    rw [chooseSetter_of_match hCandidates hBefore hTakes] at h
    cases h
  · exact hNone

/-- **Setters are ambiguous only where none takes what the getter returns.** -/
theorem setters_unmatched_of_profile {name : String} {declaring first second : TypeName}
    (h : source.profile type = .error (.ambiguousSetter name declaring first second)) :
    ∃ getters, source.methodGetters type = .ok getters ∧
      source.Unmatched (getterType? getters name) (source.settersOf type name) := by
  rcases methods_error_of_profile h with hGetters | ⟨getters, hGetters, hSetters⟩
  · -- getters are never reported as ambiguous setters
    obtain ⟨claim, -, table, hAdd⟩ := exists_of_foldlM_error hGetters
    obtain ⟨clash, -, hCause⟩ := exists_clash_of_addGetter hAdd
    cases hCause
  · -- the claim that could not be settled is the one that the error names
    obtain ⟨claim, hClaim, table, hAdd⟩ := exists_of_foldlM_error hSetters
    obtain ⟨clash, hClash, hCause⟩ := exists_clash_of_addSetter hAdd
    obtain ⟨rfl, -, -, -⟩ := PropertyError.ambiguousSetter.inj hCause
    refine ⟨getters, hGetters, ?_⟩
    rw [settersOf, ← Claim.mem_gather hClaim]
    exact unmatched_of_clash hClash

/-! ## The main result -/

/--
**The narrowest setter wins, unless one takes what the getter returns.** If setters of a claim take what
the getter returns, the first of them is chosen. If none does, and neither `object` nor a primitive has
supertypes, the choice succeeds exactly when each setter is nested with the winner among those before
it, and what the winner takes can then be handed to every setter of the claim; otherwise the clash is
that of the first two that are not nested. So no property is ambiguous that has a setter which takes
what the getter returns.
-/
theorem chooseSetter_narrowest (hSource : source.Rooted) (wanted? : Option TypeName)
    (claim : Claim V) :
    ((∃ candidate ∈ claim.candidates, wanted? = some (candidate.erasedParameter source)) →
      ∃ before winner after, claim.candidates = before ++ winner :: after ∧
        (∀ other ∈ before, wanted? ≠ some (other.erasedParameter source)) ∧
        wanted? = some (winner.erasedParameter source) ∧
        source.chooseSetter wanted? claim = .ok winner) ∧
    ((∀ candidate ∈ claim.candidates, wanted? ≠ some (candidate.erasedParameter source)) →
      ((∃ winner, source.chooseSetter wanted? claim = .ok winner) ↔
        ∀ before candidate after running, claim.rest = before ++ candidate :: after →
          source.chooseSetter wanted? { claim with rest := before } = .ok running →
            source.Nested running candidate) ∧
      (∀ winner, source.chooseSetter wanted? claim = .ok winner →
        winner ∈ claim.candidates ∧
          ∀ candidate ∈ claim.candidates, source.isAssignable (candidate.erasedParameter source)
            (winner.erasedParameter source) = true) ∧
      ∀ clash, source.chooseSetter wanted? claim = .error clash ↔
        ∃ before candidate after running, claim.rest = before ++ candidate :: after ∧
          source.chooseSetter wanted? { claim with rest := before } = .ok running ∧
          ¬source.Nested running candidate ∧
          clash = ⟨candidate.declaring, running.erasedParameter source,
            candidate.erasedParameter source⟩) ∧
    ∀ type name declaring first second,
      source.profile type = .error (.ambiguousSetter name declaring first second) →
        ∃ getters, source.methodGetters type = .ok getters ∧
          ∀ candidate ∈ source.settersOf type name,
            getterType? getters name ≠ some (candidate.erasedParameter source) := by
  refine ⟨?_, ?_, fun type name declaring first second => setters_unmatched_of_profile⟩
  · -- some setter takes what the getter returns
    rintro ⟨candidate, hCandidate, hTakes⟩
    rcases exists_first_match_or_unmatched source wanted? claim.candidates with
      ⟨before, winner, after, hCandidates, hBefore, hWinner⟩ | hNone
    · exact ⟨before, winner, after, hCandidates, hBefore, hWinner,
        chooseSetter_of_match hCandidates hBefore hWinner⟩
    · exact absurd hTakes (hNone candidate hCandidate)
  · intro hNone
    -- the choice among the first few candidates is a shorter run of the same comparisons
    have hRun : ∀ {before candidate after}, claim.rest = before ++ candidate :: after →
        source.chooseSetter wanted? { claim with rest := before } =
          before.foldlM source.betterSetter claim.first :=
      fun hRest => chooseSetter_of_unmatched (unmatched_before hNone hRest)
    have hWhole := chooseSetter_of_unmatched hNone
    refine ⟨?_, ?_, ?_⟩
    · -- it succeeds
      rw [hWhole, exists_foldlM_eq_ok_iff]
      simp only [exists_betterSetter_iff]
      constructor
      · intro h before candidate after running hRest hRunning
        rw [hRun hRest] at hRunning
        exact h before candidate after running hRest hRunning
      · intro h before candidate after running hRest hRunning
        rw [← hRun hRest] at hRunning
        exact h before candidate after running hRest hRunning
    · -- its winner
      intro winner hWinner
      rw [hWhole] at hWinner
      have hNarrowest := (narrowest_first claim.first).run hSource hWinner
      exact ⟨hNarrowest.mem, hNarrowest.least⟩
    · -- its clash
      intro clash
      rw [hWhole, foldlM_eq_error_iff]
      simp only [betterSetter_eq_error_iff]
      constructor
      · rintro ⟨before, candidate, after, running, hRest, hRunning, hClash⟩
        rw [← hRun hRest] at hRunning
        exact ⟨before, candidate, after, running, hRest, hRunning, hClash⟩
      · rintro ⟨before, candidate, after, running, hRest, hRunning, hClash⟩
        rw [hRun hRest] at hRunning
        exact ⟨before, candidate, after, running, hRest, hRunning, hClash⟩

end Introspect.Source

/-! ## A sample -/

namespace Introspect.Sample

/-- A method `setLimit` that takes a value of the type. -/
def limitSetter (type : TypeName) : Candidate Value :=
  ⟨integer, method "setLimit" none [type]⟩

/-- The limit can be set to a number, to an integer and to something labeled. -/
def limitSetters : Claim Value :=
  ⟨"limit", limitSetter number, [limitSetter integer, limitSetter labeled]⟩

/-- The limit can be set to a number and to something labeled. -/
def looseSetters : Claim Value := ⟨"limit", limitSetter number, [limitSetter labeled]⟩

end Introspect.Sample

namespace Introspect.Source

/-- Integers win among the limits, being numbers and labeled; without them, numbers and what is labeled
clash. Where the getter returns something labeled, neither matters. -/
theorem chooseSetter_narrowest_limits :
    Sample.numbers.toSource.Rooted ∧
      (∃ winner, Sample.numbers.toSource.chooseSetter none Sample.limitSetters = .ok winner ∧
        winner = Sample.limitSetter Sample.integer ∧
        ∀ candidate ∈ Sample.limitSetters.candidates, Sample.numbers.toSource.isAssignable
          (candidate.erasedParameter Sample.numbers.toSource) Sample.integer = true) ∧
      Sample.numbers.toSource.chooseSetter none Sample.looseSetters =
        .error ⟨Sample.integer, Sample.number, Sample.labeled⟩ ∧
      ∃ winner ∈ Sample.limitSetters.candidates,
        winner.erasedParameter Sample.numbers.toSource = Sample.labeled ∧
        Sample.numbers.toSource.chooseSetter (some Sample.labeled) Sample.limitSetters =
          .ok winner := by
  have hRooted := Sample.numbers_layered.isRooted
  refine ⟨hRooted, ?_, ?_, ?_⟩
  · have hWinner : Sample.numbers.toSource.chooseSetter none Sample.limitSetters =
        .ok (Sample.limitSetter Sample.integer) := by cbv
    obtain ⟨-, hNone, -⟩ := chooseSetter_narrowest hRooted none Sample.limitSetters
    -- no getter is there to be matched, so the setters are compared
    obtain ⟨-, hNarrowest, -⟩ := hNone (by simp)
    have hErased : (Sample.limitSetter Sample.integer).erasedParameter Sample.numbers.toSource =
        Sample.integer := by cbv
    obtain ⟨-, hLeast⟩ := hNarrowest _ hWinner
    rw [hErased] at hLeast
    exact ⟨_, hWinner, rfl, hLeast⟩
  · obtain ⟨-, hNone, -⟩ := chooseSetter_narrowest hRooted none Sample.looseSetters
    obtain ⟨-, -, hClash⟩ := hNone (by simp)
    refine (hClash _).mpr
      ⟨[], Sample.limitSetter Sample.labeled, [], Sample.limitSetter Sample.number, rfl, by cbv, ?_, ?_⟩
    · -- neither is the narrower of the two
      have hOffered : Sample.numbers.toSource.isAssignable
          ((Sample.limitSetter Sample.number).erasedParameter Sample.numbers.toSource)
          ((Sample.limitSetter Sample.labeled).erasedParameter Sample.numbers.toSource) = false := by
        cbv
      have hHeld : Sample.numbers.toSource.isAssignable
          ((Sample.limitSetter Sample.labeled).erasedParameter Sample.numbers.toSource)
          ((Sample.limitSetter Sample.number).erasedParameter Sample.numbers.toSource) = false := by
        cbv
      simp [Nested, hOffered, hHeld]
    · cbv
  · obtain ⟨hMatch, -⟩ := chooseSetter_narrowest hRooted (some Sample.labeled) Sample.limitSetters
    obtain ⟨before, winner, after, hCandidates, hBefore, hWinner, hChosen⟩ :=
      hMatch ⟨Sample.limitSetter Sample.labeled, by simp [Claim.candidates, Sample.limitSetters],
        by cbv⟩
    refine ⟨winner, ?_, (Option.some.inj hWinner).symm, hChosen⟩
    rw [hCandidates]
    exact List.mem_append_right _ List.mem_cons_self

end Introspect.Source
