import Introspect.Text.Case

/-!
# Characters without case

Case mapping turns letters into letters. An ASCII character that is no letter is its own upper-case
form, and comes up in the upper-case form of no other character, so a text has it exactly where its
upper-case form does.

Main results:

* `mapCase_cases`: all that a mapping may make of a character.
* `mem_upper_iff`: a text has the marks of its upper-case form.
-/

namespace Introspect.Text

variable {c : Char} {code : Nat}

/-- An ASCII character that is no letter; the null character is none either, as it stands for all
numbers without a character. -/
def IsMark (c : Char) : Prop := c ≠ '\x00' ∧ c.toNat < 128 ∧ c.isAlpha = false

instance : DecidablePred IsMark := fun _ => inferInstanceAs (Decidable (_ ∧ _))

/-- A number of a letter, or of a character above ASCII. -/
def IsUnmarked (code : Nat) : Prop := 128 ≤ code ∨ (Char.ofNat code).isAlpha = true

instance : DecidablePred IsUnmarked := fun _ => inferInstanceAs (Decidable (_ ∨ _))

/-- A number without a character stands for the null character. -/
theorem ofNat_cases (code : Nat) : (Char.ofNat code).toNat = code ∨ Char.ofNat code = '\x00' := by
  by_cases hValid : code.isValidChar
  · left
    rw [Char.ofNat, dif_pos hValid]
    rfl
  · right
    rw [Char.ofNat, dif_neg hValid]
    rfl

/-- A number that is unmarked stands for no mark. -/
theorem ofNat_ne_of_isUnmarked (hMark : IsMark c) (hCode : IsUnmarked code) :
    Char.ofNat code ≠ c := by
  rintro rfl
  obtain ⟨hNull, hAscii, hLetter⟩ := hMark
  rcases hCode with hAbove | hAlpha
  · -- a number that is too high for ASCII has a character above ASCII or none
    have hSame := (ofNat_cases code).resolve_right hNull
    omega
  · rw [hAlpha] at hLetter
    cases hLetter

/-! ## Mappings -/

/-- A mapping makes of a character what a sequence says, or what a run says, or nothing else than the
character itself. -/
theorem mapCase_cases (sequences : List (Nat × List Nat)) (runs : List CaseRun) (c : Char) :
    (∃ codes, (c.toNat, codes) ∈ sequences ∧ mapCase sequences runs c = codes.map Char.ofNat) ∨
      (∃ run ∈ runs, ∃ moved, run.move? c.toNat = some moved ∧
        mapCase sequences runs c = [Char.ofNat moved]) ∨
      mapCase sequences runs c = [c] := by
  unfold mapCase
  -- sequences are looked up first, and then the runs in their order
  cases hSequence : sequences.lookup c.toNat with
  | some codes =>
    obtain ⟨before, after, hSplit, -⟩ := List.lookup_eq_some_iff.mp hSequence
    refine .inl ⟨codes, ?_, rfl⟩
    rw [hSplit]
    exact List.mem_append_right _ List.mem_cons_self
  | none =>
    cases hMoves : runs.findSome? (·.move? c.toNat) with
    | some moved =>
      obtain ⟨run, hRun, hMove⟩ := List.exists_of_findSome?_eq_some hMoves
      exact .inr (.inl ⟨run, hRun, moved, hMove, rfl⟩)
    | none => exact .inr (.inr rfl)

/-! ## Single characters -/

/-- In ASCII only letters have an upper-case form of their own, and it is a letter. -/
theorem toUpper_ascii : ∀ code < 128, (Char.ofNat code).toUpper = Char.ofNat code ∨
    (Char.ofNat code).isAlpha = true ∧ (Char.ofNat code).toUpper.isAlpha = true := by
  decide +kernel

theorem unmarked_upperSequences :
    ∀ sequence ∈ upperSequences, ∀ code ∈ sequence.2, IsUnmarked code := by
  decide +kernel

/-- A run that comes down to ASCII has a single character. -/
theorem unmarked_upperRuns : ∀ run ∈ upperRuns, 128 ≤ run.first + run.shift ∨
    run.first = run.last ∧ IsUnmarked (run.first + run.shift).toNat := by
  decide +kernel

/-- A run leads to letters and to what is above ASCII. -/
theorem isUnmarked_of_move? {run : CaseRun} (hRun : run ∈ upperRuns) {moved : Nat}
    (hMove : run.move? code = some moved) : IsUnmarked moved := by
  unfold CaseRun.move? at hMove
  split at hMove
  · rename_i hIn
    cases hMove
    -- every character of the run is shifted as its first one is
    rcases unmarked_upperRuns run hRun with hAbove | ⟨hSingle, hUnmarked⟩
    · left
      omega
    · obtain rfl : code = run.first := by omega
      exact hUnmarked
  · cases hMove

/-- A mark is in the upper-case form of itself and of no other character. -/
theorem mem_upperChar_iff (hMark : IsMark c) (other : Char) : c ∈ upperChar other ↔ c = other := by
  unfold upperChar
  split
  · rename_i hAscii
    have hUpper := toUpper_ascii other.toNat hAscii
    rw [Char.ofNat_toNat] at hUpper
    rw [List.mem_singleton]
    rcases hUpper with hSame | ⟨hLetter, hUpperLetter⟩
    · rw [hSame]
    · -- neither the letter nor its upper-case form is a mark
      constructor
      · rintro rfl
        simp [hMark.2.2] at hUpperLetter
      · rintro rfl
        simp [hMark.2.2] at hLetter
  · rename_i hAbove
    have hOther : c ≠ other := by
      rintro rfl
      exact hAbove hMark.2.1
    refine iff_of_false ?_ hOther
    rcases mapCase_cases upperSequences upperRuns other with
      ⟨codes, hSequence, hMap⟩ | ⟨run, hRun, moved, hMove, hMap⟩ | hMap
    · -- a sequence makes nothing that is a mark
      rw [hMap]
      intro hMem
      obtain ⟨code, hCode, hChar⟩ := List.mem_map.mp hMem
      exact ofNat_ne_of_isUnmarked hMark (unmarked_upperSequences _ hSequence code hCode) hChar
    · rw [hMap]
      intro hMem
      exact ofNat_ne_of_isUnmarked hMark (isUnmarked_of_move? hRun hMove)
        (List.mem_singleton.mp hMem).symm
    · rwa [hMap, List.mem_singleton]

/-! ## Texts -/

/-- **A text has the marks of its upper-case form.** -/
theorem mem_upper_iff (hMark : IsMark c) (text : String) :
    c ∈ (upper text).toList ↔ c ∈ text.toList := by
  rw [upper, String.toList_ofList, List.mem_flatMap]
  constructor
  · rintro ⟨other, hOther, hUpper⟩
    rwa [(mem_upperChar_iff hMark other).mp hUpper]
  · intro hMem
    exact ⟨c, hMem, (mem_upperChar_iff hMark c).mpr rfl⟩

/-- Texts of one upper-case form have the same marks. -/
theorem mem_iff_of_upper_eq (hMark : IsMark c) {text other : String}
    (hUpper : upper text = upper other) : c ∈ text.toList ↔ c ∈ other.toList := by
  rw [← mem_upper_iff hMark text, hUpper, mem_upper_iff hMark]

end Introspect.Text
