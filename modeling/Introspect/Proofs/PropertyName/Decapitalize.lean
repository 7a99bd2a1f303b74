import Introspect.Proofs.PropertyName
import Introspect.Proofs.Text.Lower

/-!
# One name for the accessors of a property

A property may have several accessors, and they meet in one name: what follows the leading word is
decapitalized alike, whichever word it is, and is decapitalized once for all.

* `decapitalized` — the name of a property, from what follows the leading word of its accessors.

Main results:

* `decapitalize_decapitalize`: a decapitalized name stays as it is.
* `accessor_names_meet`: getters and setters of one suffix have one property, also when they are
  named after it, and what is left of the suffix in its name.
-/

namespace Introspect.PropertyName

variable {first : Char} {rest name : List Char} {suffix : String}

/-- The name with its first letter in lower case, unless the second is upper case. -/
def decapitalized (name : String) : String := String.ofList (decapitalize name.toList)

/-! ## Decapitalized names -/

/-- A name stays as it is if its second character is upper case. -/
theorem decapitalize_of_upper (hUpper : rest.head?.any Text.isUpper = true) :
    decapitalize (first :: rest) = first :: rest := by
  rw [decapitalize, if_pos hUpper]

/-- Otherwise the first character gives way to its lower-case form. -/
theorem decapitalize_of_not_upper (hUpper : rest.head?.any Text.isUpper = false) :
    decapitalize (first :: rest) = Text.lowerChar first ++ rest := by
  rw [decapitalize, if_neg (by simp [hUpper])]

/-- A name stays as it is if its first character is lower case, whatever the second is. -/
theorem decapitalize_of_lower (hLower : Text.lowerChar first = [first]) :
    decapitalize (first :: rest) = first :: rest := by
  cases hUpper : rest.head?.any Text.isUpper with
  | true => exact decapitalize_of_upper hUpper
  | false => rw [decapitalize_of_not_upper hUpper, hLower, List.singleton_append]

/-- Something is left of a name that is decapitalized. -/
theorem decapitalize_ne_nil (hName : name ≠ []) : decapitalize name ≠ [] := by
  obtain ⟨first, rest, rfl⟩ := List.exists_cons_of_ne_nil hName
  cases hUpper : rest.head?.any Text.isUpper with
  | true =>
    rw [decapitalize_of_upper hUpper]
    exact hName
  | false =>
    rw [decapitalize_of_not_upper hUpper]
    exact List.append_ne_nil_of_left_ne_nil (Text.lowerChar_ne_nil first) rest

/-- **A decapitalized name stays as it is.** -/
theorem decapitalize_decapitalize (name : List Char) :
    decapitalize (decapitalize name) = decapitalize name := by
  cases name with
  | nil => rfl
  | cons first rest =>
    cases hUpper : rest.head?.any Text.isUpper with
    | true => rw [decapitalize_of_upper hUpper, decapitalize_of_upper hUpper]
    | false =>
      -- the lower-case form may be longer, and what was second need not be second in it
      obtain ⟨c, more, hLower⟩ := List.exists_cons_of_ne_nil (Text.lowerChar_ne_nil first)
      have hFirst : Text.lowerChar c = [c] :=
        Text.lowerChar_of_mem (hLower ▸ List.mem_cons_self)
      rw [decapitalize_of_not_upper hUpper, hLower, List.cons_append, decapitalize_of_lower hFirst]

theorem decapitalized_decapitalized (name : String) :
    decapitalized (decapitalized name) = decapitalized name := by
  rw [decapitalized, decapitalized, String.toList_ofList, decapitalize_decapitalize]

/-- A suffix that is not empty names a property by something. -/
theorem decapitalized_ne_empty (hSuffix : suffix ≠ "") : decapitalized suffix ≠ "" := by
  have hName : suffix.toList ≠ [] := by simpa using hSuffix
  intro hEmpty
  refine decapitalize_ne_nil hName ?_
  simpa [decapitalized] using congrArg String.toList hEmpty

/-! ## Accessors -/

/-- The property that follows a leading word is that of what follows. -/
theorem following?_append (word : String) (hSuffix : suffix ≠ "") :
    following? word (word ++ suffix) = some (decapitalized suffix) :=
  following?_eq_some_iff.mpr
    ⟨suffix.toList, by simpa using hSuffix, String.toList_append, rfl⟩

theorem ofGetter?_get (hSuffix : suffix ≠ "") (returnsBool : Bool) :
    ofGetter? ("get" ++ suffix) returnsBool = some (decapitalized suffix) := by
  rw [ofGetter?, following?_append "get" hSuffix]

theorem ofGetter?_is (hSuffix : suffix ≠ "") :
    ofGetter? ("is" ++ suffix) true = some (decapitalized suffix) := by
  rw [ofGetter?, following?_get_of_is String.toList_append]
  exact following?_append "is" hSuffix

theorem ofSetter?_set (hSuffix : suffix ≠ "") :
    ofSetter? ("set" ++ suffix) = some (decapitalized suffix) :=
  following?_append "set" hSuffix

/--
**The accessors of a property meet in one name.** For every suffix that is not empty, getters and
setters that are named by it have the same property. It is named by the decapitalized suffix, and
accessors that are named by that have the same property again. The name is the suffix, unless its
second character is not upper case: it may then have the lower-case form of the first character in
its place, and nothing else is different.
-/
theorem accessor_names_meet (hSuffix : suffix ≠ "") :
    (∀ returnsBool, ofGetter? ("get" ++ suffix) returnsBool = some (decapitalized suffix)) ∧
      ofGetter? ("is" ++ suffix) true = some (decapitalized suffix) ∧
      ofSetter? ("set" ++ suffix) = some (decapitalized suffix) ∧
      (∀ name, decapitalized (decapitalized name) = decapitalized name) ∧
      (∀ returnsBool,
        ofGetter? ("get" ++ decapitalized suffix) returnsBool = some (decapitalized suffix)) ∧
      ofGetter? ("is" ++ decapitalized suffix) true = some (decapitalized suffix) ∧
      ofSetter? ("set" ++ decapitalized suffix) = some (decapitalized suffix) ∧
      ∃ first rest, suffix.toList = first :: rest ∧
        (decapitalized suffix = suffix ∨
          (∀ second ∈ rest.head?, Text.isUpper second = false) ∧
            (decapitalized suffix).toList = Text.lowerChar first ++ rest) := by
  -- the second half is the first for what the suffix has become
  have hProperty := decapitalized_ne_empty hSuffix
  have hAgain := decapitalized_decapitalized suffix
  refine ⟨ofGetter?_get hSuffix, ofGetter?_is hSuffix, ofSetter?_set hSuffix,
    decapitalized_decapitalized, fun returnsBool => ?_, ?_, ?_, ?_⟩
  · rw [ofGetter?_get hProperty, hAgain]
  · rw [ofGetter?_is hProperty, hAgain]
  · rw [ofSetter?_set hProperty, hAgain]
  · have hName : suffix.toList ≠ [] := by simpa using hSuffix
    obtain ⟨first, rest, hCons⟩ := List.exists_cons_of_ne_nil hName
    refine ⟨first, rest, hCons, ?_⟩
    cases hUpper : rest.head?.any Text.isUpper with
    | true =>
      left
      rw [decapitalized, hCons, decapitalize_of_upper hUpper, ← hCons, String.ofList_toList]
    | false =>
      right
      refine ⟨fun second hSecond => ?_, ?_⟩
      · simpa [Option.mem_def.mp hSecond] using hUpper
      · rw [decapitalized, String.toList_ofList, hCons, decapitalize_of_not_upper hUpper]

/-- A capital I with a dot has two characters for its lower-case form: the second is then the dot,
and no longer the second of the suffix. -/
theorem accessor_names_meet_dotted :
    "\u0130d" ≠ "" ∧
      ofGetter? "get\u0130d" false = some "i\u0307d" ∧
      ofGetter? "is\u0130d" true = some "i\u0307d" ∧
      ofSetter? "set\u0130d" = some "i\u0307d" ∧
      decapitalized "i\u0307d" = "i\u0307d" ∧
      ofGetter? "geti\u0307d" false = some "i\u0307d" ∧
      ofGetter? "isi\u0307d" true = some "i\u0307d" ∧
      ofSetter? "seti\u0307d" = some "i\u0307d" := by
  have hSuffix : "\u0130d" ≠ "" := by decide
  have hProperty : decapitalized "\u0130d" = "i\u0307d" := by decide +kernel
  obtain ⟨hGet, hIs, hSet, hAgain, hGetAgain, hIsAgain, hSetAgain, -⟩ :=
    accessor_names_meet hSuffix
  -- the suffix is decapitalized once, and that is what all six names have in them
  rw [hProperty] at hIs hSet hIsAgain hSetAgain
  simp only [hProperty] at hGet hGetAgain
  exact ⟨hSuffix, hGet false, hIs, hSet, hProperty ▸ hAgain "\u0130d", hGetAgain false, hIsAgain,
    hSetAgain⟩

end Introspect.PropertyName
