import Introspect.PropertyName

/-!
# Names of accessors

When the name of a method names a property, and which. The leading words exclude each other, so that
no method names two properties.
-/

namespace Introspect.PropertyName

/-- A property follows a leading word exactly when something is left after the word. -/
theorem following?_eq_some_iff {word method name : String} :
    following? word method = some name ↔
      ∃ rest, rest ≠ [] ∧ method.toList = word.toList ++ rest ∧
        name = String.ofList (decapitalize rest) := by
  unfold following? afterWord?
  constructor
  · intro h
    obtain ⟨rest, hRest, hName⟩ := Option.map_eq_some_iff.mp h
    split at hRest
    · rename_i hWord
      rw [Bool.and_eq_true, List.isPrefixOf_iff_prefix, decide_eq_true_eq] at hWord
      -- what is left after the word is what the name is longer by
      obtain ⟨⟨tail, hTail⟩, hLength⟩ := hWord
      rw [← hTail, List.drop_left] at hRest
      have hSame : tail = rest := Option.some.inj hRest
      subst hSame
      refine ⟨tail, ?_, hTail.symm, hName.symm⟩
      rintro rfl
      rw [← hTail] at hLength
      simp at hLength
    · cases hRest
  · rintro ⟨rest, hRest, hMethod, rfl⟩
    have hLength : word.toList.length < (word.toList ++ rest).length := by
      have := List.length_pos_iff.mpr hRest
      rw [List.length_append]
      omega
    have hWord : (word.toList.isPrefixOf method.toList &&
        decide (word.toList.length < method.toList.length)) = true := by
      rw [hMethod, Bool.and_eq_true, List.isPrefixOf_iff_prefix, decide_eq_true_eq]
      exact ⟨List.prefix_append _ _, hLength⟩
    rw [if_pos hWord, hMethod, List.drop_left]
    rfl

/-- A name that begins with `is` does not begin with `get`. -/
theorem following?_get_of_is {method : String} {rest : List Char}
    (hMethod : method.toList = "is".toList ++ rest) : following? "get" method = none := by
  cases hFollowing : following? "get" method with
  | none => rfl
  | some name =>
    obtain ⟨other, -, hOther, -⟩ := following?_eq_some_iff.mp hFollowing
    rw [hMethod] at hOther
    simp at hOther

/-- The two forms of a getter's name. -/
theorem ofGetter?_eq_some_iff {method name : String} {returnsBool : Bool} :
    ofGetter? method returnsBool = some name ↔
      ∃ rest, rest ≠ [] ∧ name = String.ofList (decapitalize rest) ∧
        (method.toList = "get".toList ++ rest ∨
          method.toList = "is".toList ++ rest ∧ returnsBool = true) := by
  unfold ofGetter?
  constructor
  -- `get` is tried first, and then `is` if the getter may be named so
  · intro h
    cases hGet : following? "get" method with
    | some found =>
      rw [hGet] at h
      cases h
      obtain ⟨rest, hRest, hMethod, hName⟩ := following?_eq_some_iff.mp hGet
      exact ⟨rest, hRest, hName, Or.inl hMethod⟩
    | none =>
      rw [hGet] at h
      cases returnsBool with
      | false => cases h
      | true =>
        obtain ⟨rest, hRest, hMethod, hName⟩ := following?_eq_some_iff.mp h
        exact ⟨rest, hRest, hName, Or.inr ⟨hMethod, rfl⟩⟩
  · rintro ⟨rest, hRest, hName, hMethod | ⟨hMethod, rfl⟩⟩
    · rw [following?_eq_some_iff.mpr ⟨rest, hRest, hMethod, hName⟩]
    · rw [following?_get_of_is hMethod]
      exact following?_eq_some_iff.mpr ⟨rest, hRest, hMethod, hName⟩

/-- The form of a setter's name. -/
theorem ofSetter?_eq_some_iff {method name : String} :
    ofSetter? method = some name ↔
      ∃ rest, rest ≠ [] ∧ name = String.ofList (decapitalize rest) ∧
        method.toList = "set".toList ++ rest := by
  rw [ofSetter?, following?_eq_some_iff]
  constructor
  · rintro ⟨rest, hRest, hMethod, hName⟩
    exact ⟨rest, hRest, hName, hMethod⟩
  · rintro ⟨rest, hRest, hName, hMethod⟩
    exact ⟨rest, hRest, hMethod, hName⟩

/-- A getter's name is that of a getter of a truth value too. -/
theorem ofGetter?_true {method name : String} {returnsBool : Bool}
    (h : ofGetter? method returnsBool = some name) : ofGetter? method true = some name := by
  obtain ⟨rest, hRest, hName, hMethod⟩ := ofGetter?_eq_some_iff.mp h
  refine ofGetter?_eq_some_iff.mpr ⟨rest, hRest, hName, ?_⟩
  exact hMethod.imp id fun hIs => ⟨hIs.1, rfl⟩

/-- No name is that of a getter and that of a setter. -/
theorem ofSetter?_of_ofGetter? {method name : String} {returnsBool : Bool}
    (h : ofGetter? method returnsBool = some name) : ofSetter? method = none := by
  cases hSetter : ofSetter? method with
  | none => rfl
  | some other =>
    obtain ⟨rest, -, -, hMethod⟩ := ofGetter?_eq_some_iff.mp h
    obtain ⟨others, -, -, hOther⟩ := ofSetter?_eq_some_iff.mp hSetter
    -- neither `get` nor `is` begins as `set` does
    rcases hMethod with hGet | ⟨hIs, -⟩
    · rw [hGet] at hOther
      simp at hOther
    · rw [hIs] at hOther
      simp at hOther

theorem isReserved_eq_false_iff {name : String} :
    isReserved name = false ↔ name.toList.head? ≠ some '$' ∧ name ≠ "class" := by
  simp [isReserved]

end Introspect.PropertyName
