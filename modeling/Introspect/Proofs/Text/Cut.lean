import Mathlib.Data.List.TakeWhile

/-!
# Cutting texts

A text that was put together where a test fails for the first time is cut there again. Mostly the
test fails for one character alone, the mark that the text is cut at.

* `takeWhile_append_exact` and `dropWhile_append_exact`: the parts of a text are what it is cut into.
* `takeWhile_ne_append` and `dropWhile_ne_append`: the same for the part before a mark, and what is
  from the mark on.
* `notMem_takeWhile_ne`, `head?_dropWhile_ne` and `notMem_of_mem_splitOn`: where the mark is not, and
  where it is.
-/

namespace Introspect.Text

variable {p : Char → Bool} {mark : Char} {front after text : List Char}

/-! ## Cutting where a test fails -/

/-- What comes before the first character that fails is the part in front. -/
theorem takeWhile_append_exact (hFront : ∀ c ∈ front, p c = true)
    (hAfter : ∀ c ∈ after.head?, p c = false) : (front ++ after).takeWhile p = front := by
  rw [List.takeWhile_append_of_pos hFront]
  cases after with
  | nil => simp
  | cons c after => simp [hAfter c rfl]

/-- What is left is the part behind, as it begins with a character that fails. -/
theorem dropWhile_append_exact (hFront : ∀ c ∈ front, p c = true)
    (hAfter : ∀ c ∈ after.head?, p c = false) : (front ++ after).dropWhile p = after := by
  rw [List.dropWhile_append_of_pos hFront]
  cases after with
  | nil => rfl
  | cons c after => simp [hAfter c rfl]

/-- What is left begins where the test failed. -/
theorem head?_dropWhile (p : Char → Bool) (text : List Char) :
    ∀ c ∈ (text.dropWhile p).head?, p c = false := by
  intro c hHead
  have hStops := List.head?_dropWhile_not p text
  rwa [Option.mem_def.mp hHead] at hStops

/-! ## Cutting at a mark -/

theorem ne_mark_of_mem (hText : mark ∉ text) : ∀ c ∈ text, (c != mark) = true := fun c hMem => by
  rw [bne_iff_ne]
  exact ne_of_mem_of_not_mem hMem hText

theorem takeWhile_ne_append (hFront : mark ∉ front) (hAfter : ∀ c ∈ after.head?, c = mark) :
    (front ++ after).takeWhile (· != mark) = front :=
  takeWhile_append_exact (ne_mark_of_mem hFront) fun c hHead => by simp [hAfter c hHead]

theorem dropWhile_ne_append (hFront : mark ∉ front) (hAfter : ∀ c ∈ after.head?, c = mark) :
    (front ++ after).dropWhile (· != mark) = after :=
  dropWhile_append_exact (ne_mark_of_mem hFront) fun c hHead => by simp [hAfter c hHead]

theorem takeWhile_ne_of_notMem (hText : mark ∉ text) : text.takeWhile (· != mark) = text := by
  rw [List.takeWhile_eq_self_iff]
  exact ne_mark_of_mem hText

theorem dropWhile_ne_of_notMem (hText : mark ∉ text) : text.dropWhile (· != mark) = [] := by
  rw [List.dropWhile_eq_nil_iff]
  exact ne_mark_of_mem hText

theorem notMem_takeWhile_ne (text : List Char) : mark ∉ text.takeWhile (· != mark) := by
  intro hMark
  simpa using List.mem_takeWhile_imp hMark

theorem head?_dropWhile_ne (mark : Char) (text : List Char) :
    ∀ c ∈ (text.dropWhile (· != mark)).head?, c = mark := by
  intro c hHead
  simpa using head?_dropWhile (· != mark) text c hHead

/-- No piece of a text holds the mark that the text is cut at. -/
theorem notMem_of_mem_splitOn {piece : List Char} (h : piece ∈ text.splitOn mark) :
    mark ∉ piece := by
  -- a mark begins a new piece, and any other character goes to the first one
  induction text generalizing piece with
  | nil =>
    rw [List.splitOn_nil, List.mem_singleton] at h
    rw [h]
    exact List.not_mem_nil
  | cons c text ih =>
    rw [List.splitOn_cons_eq_if_modifyHead] at h
    obtain ⟨first, others, hPieces⟩ := List.exists_cons_of_ne_nil (List.splitOn_ne_nil mark text)
    rw [hPieces] at h ih
    split at h
    · -- the mark ends the empty piece before it
      rcases List.mem_cons.mp h with rfl | hLater
      · exact List.not_mem_nil
      · exact ih hLater
    · rename_i hOther
      rw [List.modifyHead_cons] at h
      rcases List.mem_cons.mp h with rfl | hLater
      · rw [List.mem_cons, not_or]
        exact ⟨fun hSame => hOther (beq_iff_eq.mpr hSame.symm), ih List.mem_cons_self⟩
      · exact ih (List.mem_cons_of_mem _ hLater)

end Introspect.Text
