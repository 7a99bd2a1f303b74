/-!
# Steps that may fail

When several steps, each of which may fail, succeed together.
-/

namespace Introspect

variable {ε α β : Type}

/-- Two steps in turn succeed when the first one does and then the second. -/
theorem bind_eq_ok_iff {step : Except ε α} {goOn : α → Except ε β} {answer : β} :
    step >>= goOn = .ok answer ↔ ∃ held, step = .ok held ∧ goOn held = .ok answer := by
  cases step with
  | error cause =>
    constructor
    · intro h
      cases h
    · rintro ⟨held, hStep, -⟩
      cases hStep
  | ok held =>
    constructor
    · intro h
      exact ⟨held, rfl, h⟩
    · rintro ⟨same, hStep, h⟩
      cases hStep
      exact h

/-- What is made of an answer succeeds when there is an answer to make it of. -/
theorem map_eq_ok_iff {step : Except ε α} {f : α → β} {answer : β} :
    step.map f = .ok answer ↔ ∃ held, step = .ok held ∧ f held = answer := by
  cases step with
  | error cause => simp [Except.map]
  | ok held => simp [Except.map]

/-- A step for each item of a list succeeds when all of them do. -/
theorem mapM_cons_eq_ok_iff {step : α → Except ε β} {item : α} {items : List α}
    {answers : List β} :
    (item :: items).mapM step = .ok answers ↔
      ∃ first rest, step item = .ok first ∧ items.mapM step = .ok rest ∧
        answers = first :: rest := by
  rw [List.mapM_cons]
  simp only [bind_eq_ok_iff, pure, Except.pure, Except.ok.injEq]
  constructor
  · rintro ⟨first, hFirst, rest, hRest, rfl⟩
    exact ⟨first, rest, hFirst, hRest, rfl⟩
  · rintro ⟨first, rest, hFirst, hRest, rfl⟩
    exact ⟨first, hFirst, rest, hRest, rfl⟩

end Introspect
