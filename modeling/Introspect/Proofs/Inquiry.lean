import Introspect.Proofs.Cache.Content
import Introspect.Proofs.Outcome
import Introspect.Question

/-!
# Answers to inquiries

The answer to an inquiry is a function of the source. `Inquiry.eval` takes an inquiry apart along
its steps, so that a question is answered piece by piece; and a cache, in whatever state its uses
have left it, gives the same answer.

Main results:

* `eval_bind` and its companions: evaluation follows the steps of an inquiry.
* `Cache.Reachable.run_eq_eval`: what is answered through a reachable cache is what the source
  alone answers.
-/

namespace Introspect

variable {V α β : Type} {source : Source V}

/-! ## Evaluation -/

namespace Inquiry

@[simp] theorem eval_pure (answer : α) : (pure answer : Inquiry V α).eval source = .ok answer := rfl

@[simp] theorem eval_fail (cause : PropertyError) :
    (.fail cause : Inquiry V α).eval source = .error cause := rfl

/-- Two inquiries in turn are answered in turn. -/
theorem eval_bind (inquiry : Inquiry V α) (next : α → Inquiry V β) :
    (inquiry >>= next).eval source =
      inquiry.eval source >>= fun answer => (next answer).eval source := by
  show (inquiry.bind next).eval source = _
  -- along the first inquiry: what is appended only replaces its end
  induction inquiry with
  | done answer => rfl
  | fail cause => rfl
  | load type rest ih =>
    rw [bind, eval, eval]
    cases hProfile : source.profile type with
    | ok profile => exact ih profile
    | error cause => rfl
  | consult rest ih => exact ih source
  | note event rest ih => exact ih

/-- An answer that is only passed through a function. -/
theorem eval_map (f : α → β) (inquiry : Inquiry V α) :
    (f <$> inquiry).eval source = f <$> inquiry.eval source := by
  show (inquiry >>= fun answer => pure (f answer)).eval source = _
  rw [eval_bind]
  cases inquiry.eval source <;> rfl

@[simp] theorem eval_ofExcept (answer : Except PropertyError α) :
    (ofExcept answer : Inquiry V α).eval source = answer := by
  cases answer <;> rfl

@[simp] theorem eval_profile (type : TypeName) :
    (Inquiry.profile type : Inquiry V (Profile V)).eval source = source.profile type := by
  rw [profile, eval]
  cases source.profile type <;> rfl

@[simp] theorem eval_isCollection (type : TypeName) :
    (isCollection type : Inquiry V Bool).eval source = .ok (source.isCollection type) := rfl

end Inquiry

/-! ## Answers through a cache -/

namespace Cache

/-- The states that uses of a cache lead to while its source stays as it is: it may be asked
anything, switched on and off, and be about to be interrupted. -/
inductive Reachable (source : Source V) : Cache V → Prop where
  | create (settings : Settings) : Reachable source (Cache.create settings)
  | ask {cache : Cache V} {α : Type} (inquiry : Inquiry V α) (before : Reachable source cache) :
      Reachable source (inquiry.run source cache).2
  | switch {cache : Cache V} (enabled : Bool) (before : Reachable source cache) :
      Reachable source (cache.setEnabled enabled)
  | arm {cache : Cache V} (interruption : Interruption) (before : Reachable source cache) :
      Reachable source { cache with interruption? := some interruption }

/-- A cache that mirrors the source answers as the source does, and mirrors it afterwards. -/
theorem Mirrors.run {owners : List TypeName} {cache : Cache V} (h : Mirrors source owners cache)
    (inquiry : Inquiry V α) :
    ∃ owners', Mirrors source owners' (inquiry.run source cache).2 ∧
      (inquiry.run source cache).1 = inquiry.eval source := by
  -- every step either hands on a cache that mirrors the source, or asks it for one profile
  induction inquiry generalizing cache owners with
  | done answer => exact ⟨owners, h, rfl⟩
  | fail cause => exact ⟨owners, h, rfl⟩
  | load type next ih =>
    obtain ⟨grown, hAfter, hAnswer⟩ := h.resolve type
    rw [Inquiry.run, Inquiry.eval, ← hAnswer]
    rcases hResolve : cache.resolve source type with ⟨result, after⟩
    rw [hResolve] at hAfter
    cases result with
    | ok entry => exact ih entry.profile hAfter
    | error cause => exact ⟨grown, hAfter, rfl⟩
  | consult next ih => exact ih source h.consulted
  | note event next ih => exact ih (h.report [event])

/-- A cache that its uses have left mirrors its source. -/
theorem Reachable.mirrors {cache : Cache V} (h : cache.Reachable source) :
    ∃ owners, Mirrors source owners cache := by
  -- along its uses, each of which leaves a cache that mirrors the source
  induction h with
  | create settings => exact ⟨[], mirrors_create settings⟩
  | ask inquiry _ ih =>
    obtain ⟨owners, hBefore⟩ := ih
    obtain ⟨grown, hAfter, -⟩ := hBefore.run inquiry
    exact ⟨grown, hAfter⟩
  | switch enabled _ ih =>
    obtain ⟨owners, hBefore⟩ := ih
    exact ⟨owners, hBefore.setEnabled enabled⟩
  | arm interruption _ ih =>
    obtain ⟨owners, hBefore⟩ := ih
    exact ⟨owners, hBefore.arm (some interruption)⟩

/-- **Answers do not depend on the cache**: not on whether it is on, nor on what was asked of it
before. -/
theorem Reachable.run_eq_eval {cache : Cache V} (h : cache.Reachable source)
    (inquiry : Inquiry V α) : (inquiry.run source cache).1 = inquiry.eval source := by
  obtain ⟨owners, hMirrors⟩ := h.mirrors
  obtain ⟨grown, -, hAnswer⟩ := hMirrors.run inquiry
  exact hAnswer

end Cache

end Introspect
