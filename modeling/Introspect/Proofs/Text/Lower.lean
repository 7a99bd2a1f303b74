import Introspect.Proofs.Text.Case

/-!
# Lower-case forms

The characters of a lower-case form are lower case: they are their own lower-case forms. For what
lies above ASCII this is a fact about the data, which has no number both among those that the mapping
moves and among those that it leads to.

* `CaseRun.codes`, `movedCodes` and `reachedCodes` — the numbers that a mapping moves, and those that
  it leads to.

Main results:

* `lowerChar_ne_nil`: every character has a lower-case form.
* `lowerChar_of_mem`: a lower-case form stays as it is.
-/

namespace Introspect.Text

variable {sequences : List (Nat × List Nat)} {runs : List CaseRun} {c d : Char} {code : Nat}

/-! ## What a mapping moves, and where to -/

/-- The numbers of the characters that belong to a run. -/
def CaseRun.codes (run : CaseRun) : List Nat :=
  (List.range ((run.last - run.first) / run.step + 1)).map (run.first + · * run.step)

/-- The numbers of the characters that a mapping has an entry for. -/
def movedCodes (sequences : List (Nat × List Nat)) (runs : List CaseRun) : List Nat :=
  sequences.map Prod.fst ++ runs.flatMap CaseRun.codes

/-- The numbers that the entries of a mapping lead to. -/
def reachedCodes (sequences : List (Nat × List Nat)) (runs : List CaseRun) : List Nat :=
  sequences.flatMap Prod.snd ++
    runs.flatMap fun run => run.codes.map fun code : Nat => (code + run.shift).toNat

/-- What a run moves is one of its numbers, shifted like all of them. -/
theorem CaseRun.mem_codes_of_move? {run : CaseRun} {moved : Nat} (h : run.move? code = some moved) :
    code ∈ run.codes ∧ moved = (code + run.shift).toNat := by
  unfold CaseRun.move? at h
  split at h
  · rename_i hIn
    obtain ⟨hFirst, hLast, hStep⟩ := hIn
    refine ⟨List.mem_map.mpr ⟨(code - run.first) / run.step, ?_, ?_⟩, (Option.some.inj h).symm⟩
    -- the number stands as many steps into the run as its distance allows
    · have : (code - run.first) / run.step ≤ (run.last - run.first) / run.step :=
        Nat.div_le_div_right (by omega)
      rw [List.mem_range]
      omega
    · have hCut := Nat.div_add_mod' (code - run.first) run.step
      omega
  · cases h

/-- A character without an entry stays as it is. -/
theorem mapCase_of_notMem (h : c.toNat ∉ movedCodes sequences runs) :
    mapCase sequences runs c = [c] := by
  rw [movedCodes, List.mem_append, not_or] at h
  rcases mapCase_cases sequences runs c with
    ⟨codes, hSequence, -⟩ | ⟨run, hRun, moved, hMove, -⟩ | hMap
  · exact absurd (List.mem_map.mpr ⟨_, hSequence, rfl⟩) h.1
  · exact absurd (List.mem_flatMap.mpr ⟨run, hRun, (run.mem_codes_of_move? hMove).1⟩) h.2
  · exact hMap

/-- What a mapping makes of a character, if not the character alone, it has entries for. -/
theorem mapCase_reaches (sequences : List (Nat × List Nat)) (runs : List CaseRun) (c : Char) :
    mapCase sequences runs c = [c] ∨
      ∀ d ∈ mapCase sequences runs c, ∃ code ∈ reachedCodes sequences runs, Char.ofNat code = d := by
  unfold reachedCodes
  rcases mapCase_cases sequences runs c with
    ⟨codes, hSequence, hMap⟩ | ⟨run, hRun, moved, hMove, hMap⟩ | hMap
  · right
    intro d hMem
    rw [hMap] at hMem
    obtain ⟨code, hCode, hChar⟩ := List.mem_map.mp hMem
    exact ⟨code, List.mem_append_left _ (List.mem_flatMap.mpr ⟨_, hSequence, hCode⟩), hChar⟩
  · right
    intro d hMem
    rw [hMap, List.mem_singleton] at hMem
    obtain ⟨hFrom, hTo⟩ := run.mem_codes_of_move? hMove
    refine ⟨moved, List.mem_append_right _ (List.mem_flatMap.mpr ⟨run, hRun, ?_⟩), hMem.symm⟩
    exact List.mem_map.mpr ⟨c.toNat, hFrom, hTo.symm⟩
  · exact .inl hMap

/-! ## The data -/

/-- The number that has the bits in a list. -/
def bits (codes : List Nat) : Nat := codes.foldr (fun code sum => 1 <<< code ||| sum) 0

/-- The number of a list has exactly the bits in the list. -/
theorem testBit_bits {codes : List Nat} : (bits codes).testBit code = true ↔ code ∈ codes := by
  induction codes with
  | nil => simp [bits]
  | cons first rest ih =>
    have hFirst : (1 <<< first).testBit code = decide (code = first) := by
      rw [Nat.one_shiftLeft, Nat.testBit_two_pow]
      exact decide_eq_decide.mpr eq_comm
    rw [bits, List.foldr_cons, ← bits, Nat.testBit_or, Bool.or_eq_true, ih, hFirst,
      decide_eq_true_eq, List.mem_cons]

/-- Numbers without a common bit have the bits of lists without a common number. -/
theorem notMem_of_bits {codes others : List Nat} (h : bits codes &&& bits others = 0)
    (hCode : code ∈ codes) : code ∉ others := by
  intro hOther
  have hBoth : (bits codes &&& bits others).testBit code = true := by
    rw [Nat.testBit_and, testBit_bits.mpr hCode, testBit_bits.mpr hOther, Bool.and_true]
  rw [h, Nat.zero_testBit] at hBoth
  cases hBoth

-- the lists are too long for a comparison of each number with each
theorem bits_lower : bits (reachedCodes lowerSequences lowerRuns) &&&
    bits (movedCodes lowerSequences lowerRuns) = 0 := by
  decide +kernel

theorem lowerSequences_ne_nil : ∀ sequence ∈ lowerSequences, sequence.2 ≠ [] := by
  decide

theorem toLower_ascii :
    ∀ code < 128, lowerChar (Char.ofNat code).toLower = [(Char.ofNat code).toLower] := by
  decide +kernel

/-- What the mapping leads to in ASCII stays as it is. -/
theorem lowerChar_ascii_reached : ∀ code ∈ reachedCodes lowerSequences lowerRuns, code < 128 →
    lowerChar (Char.ofNat code) = [Char.ofNat code] := by
  decide +kernel

/-! ## Single characters -/

/-- Every character has a lower-case form. -/
theorem lowerChar_ne_nil (c : Char) : lowerChar c ≠ [] := by
  unfold lowerChar
  split
  · exact List.cons_ne_nil _ _
  · rcases mapCase_cases lowerSequences lowerRuns c with
      ⟨codes, hSequence, hMap⟩ | ⟨run, hRun, moved, hMove, hMap⟩ | hMap
    · rw [hMap]
      exact mt List.map_eq_nil_iff.mp (lowerSequences_ne_nil _ hSequence)
    · rw [hMap]
      exact List.cons_ne_nil _ _
    · rw [hMap]
      exact List.cons_ne_nil _ _

/-- What the mapping leads to stays as it is. -/
theorem lowerChar_reached (h : code ∈ reachedCodes lowerSequences lowerRuns) :
    lowerChar (Char.ofNat code) = [Char.ofNat code] := by
  by_cases hAscii : code < 128
  · exact lowerChar_ascii_reached code h hAscii
  -- a number without a character stands for the null character, which has no case
  rcases ofNat_cases code with hSame | hNull
  · rw [lowerChar, hSame, if_neg hAscii]
    exact mapCase_of_notMem (hSame.symm ▸ notMem_of_bits bits_lower h)
  · rw [hNull]
    decide

/-- **A lower-case form stays as it is.** -/
theorem lowerChar_of_mem (h : d ∈ lowerChar c) : lowerChar d = [d] := by
  by_cases hAscii : c.toNat < 128
  · have hLower := toLower_ascii c.toNat hAscii
    rw [Char.ofNat_toNat] at hLower
    rw [lowerChar, if_pos hAscii, List.mem_singleton] at h
    rwa [h]
  · have hMap : lowerChar c = mapCase lowerSequences lowerRuns c := by rw [lowerChar, if_neg hAscii]
    rcases mapCase_reaches lowerSequences lowerRuns c with hSame | hReached
    · rw [hMap, hSame, List.mem_singleton] at h
      rw [h, hMap, hSame]
    · obtain ⟨code, hCode, rfl⟩ := hReached d (hMap ▸ h)
      exact lowerChar_reached hCode

end Introspect.Text
