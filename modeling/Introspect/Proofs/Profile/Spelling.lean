import Introspect.Proofs.Profile.Discovery

/-!
# Names and their spellings

The names of a profile and its properties are in step, and any spelling of a name finds the first
name with the same upper-case form, readable names before writable ones.

Main results:

* `CaseIndex.find?_ofNames`: an index answers with the first name of the same upper-case form.
* `profile_wellFormed`: what holds of the names of every profile.
-/

namespace Introspect

variable {V : Type} {source : Source V} {type : TypeName}

/-! ## The index of spellings -/

namespace CaseIndex

/-- A name is added where its upper-case form is new. -/
theorem find?_add (index : CaseIndex) (name spelling : String) :
    (index.add name).find? spelling =
      (index.find? spelling).or
        (if Text.upper name == Text.upper spelling then some name else none) := by
  unfold add find?
  -- only a spelling of the same upper-case form can tell whether the name was added
  by_cases hSame : Text.upper name = Text.upper spelling
  · rw [hSame]
    cases hHeld : index.entries.lookup (Text.upper spelling) with
    | some held => simp [hHeld]
    | none => simp [hHeld, List.lookup_append]
  · have hOther : (Text.upper spelling == Text.upper name) = false :=
      beq_eq_false_iff_ne.mpr (Ne.symm hSame)
    have hNothing : (if Text.upper name == Text.upper spelling then some name else none) = none :=
      if_neg (by simpa using hSame)
    rw [hNothing, Option.or_none]
    dsimp only
    split
    · rfl
    · rw [List.lookup_append, List.lookup_cons, hOther, List.lookup_nil, Option.or_none]

/-- The names that are added are searched behind those of the index. -/
theorem find?_foldl_add (names : List String) (index : CaseIndex) (spelling : String) :
    (names.foldl add index).find? spelling =
      (index.find? spelling).or
        (names.find? fun name => Text.upper name == Text.upper spelling) := by
  -- a name that is added late answers only if none before it did
  induction names generalizing index with
  | nil => simp
  | cons name rest ih =>
    rw [List.foldl_cons, ih, find?_add, List.find?_cons, Option.or_assoc]
    cases Text.upper name == Text.upper spelling <;> simp

/-- An index answers with the first name of the same upper-case form. -/
theorem find?_ofNames (names : List String) (spelling : String) :
    (ofNames names).find? spelling =
      names.find? fun name => Text.upper name == Text.upper spelling := by
  rw [ofNames, find?_foldl_add]
  rfl

/-- What is found has the upper-case form that was asked for. -/
theorem upper_of_find? {names : List String} {spelling found : String}
    (hFound : (names.find? fun name => Text.upper name == Text.upper spelling) = some found) :
    Text.upper found = Text.upper spelling := by
  have hTest := List.find?_some hFound
  exact beq_iff_eq.mp hTest

end CaseIndex

namespace Source

/-- A spelling finds the first name of its upper-case form, readable names before writable ones. -/
theorem findName?_eq {profile : Profile V} (h : source.profile type = .ok profile)
    (spelling : String) :
    profile.findName? spelling =
      (profile.readable.names ++ profile.writable.names).find? fun name =>
        Text.upper name == Text.upper spelling := by
  obtain ⟨getters, readers, writers, hMakes⟩ := profile_makes h
  rw [Profile.findName?, hMakes.spellings_eq, CaseIndex.find?_ofNames]

/-! ## The main result -/

/-- No table lists a name that is reserved. -/
theorem free_of_lists {table : Table V} {pairs : List (String × Property V)}
    (hTable : table.Lists (unreserved pairs)) {name : String} (hName : name ∈ table.names) :
    PropertyName.isReserved name = false := by
  rw [hTable.mem_names_iff, hTable.contains_iff] at hName
  obtain ⟨pair, hPair, rfl⟩ := List.mem_map.mp hName
  simpa using (List.mem_filter.mp hPair).2

/--
**The tables of every profile are well formed.** In both directions no name is repeated and names
are exactly what properties stand under; none of them is reserved. A spelling finds the first name
of its upper-case form, readable names first. So every name finds some name of its own form, and
what is found finds itself.
-/
theorem profile_wellFormed {profile : Profile V} (h : source.profile type = .ok profile) :
    (profile.readable.names.Nodup ∧
      ∀ name, name ∈ profile.readable.names ↔ profile.readable.contains name = true) ∧
    (profile.writable.names.Nodup ∧
      ∀ name, name ∈ profile.writable.names ↔ profile.writable.contains name = true) ∧
    (∀ name ∈ profile.readable.names ++ profile.writable.names,
      name.toList.head? ≠ some '$' ∧ name ≠ "class") ∧
    (∀ spelling, profile.findName? spelling =
      (profile.readable.names ++ profile.writable.names).find? fun name =>
        Text.upper name == Text.upper spelling) ∧
    (∀ name ∈ profile.readable.names ++ profile.writable.names,
      ∃ found ∈ profile.readable.names ++ profile.writable.names,
        profile.findName? name = some found ∧ Text.upper found = Text.upper name) ∧
    (∀ spelling found, profile.findName? spelling = some found →
      profile.findName? found = some found) := by
  obtain ⟨getters, readers, writers, hMakes⟩ := profile_makes h
  refine ⟨⟨hMakes.readable_lists.nodup, fun name => hMakes.readable_lists.mem_names_iff⟩,
    ⟨hMakes.writable_lists.nodup, fun name => hMakes.writable_lists.mem_names_iff⟩,
    ?_, findName?_eq h, ?_, ?_⟩
  · intro name hName
    -- in both directions reserved names were dropped before anything was listed
    rw [← PropertyName.isReserved_eq_false_iff]
    rcases List.mem_append.mp hName with hReadable | hWritable
    · exact free_of_lists hMakes.readable_lists hReadable
    · exact free_of_lists hMakes.writable_lists hWritable
  · intro name hName
    -- the name is one of its own form, so the search ends somewhere
    have hFinds : ((profile.readable.names ++ profile.writable.names).find? fun other =>
        Text.upper other == Text.upper name).isSome = true := by
      rw [List.find?_isSome]
      exact ⟨name, hName, beq_self_eq_true _⟩
    obtain ⟨found, hFound⟩ := Option.isSome_iff_exists.mp hFinds
    exact ⟨found, List.mem_of_find?_eq_some hFound, by rw [findName?_eq h, hFound],
      CaseIndex.upper_of_find? hFound⟩
  · intro spelling found hFound
    rw [findName?_eq h] at hFound ⊢
    -- both spellings ask for the same form
    rw [CaseIndex.upper_of_find? hFound]
    exact hFound

/-- An order has a total and a field `TOTAL` with it: in whatever case, the total is found. -/
theorem profile_wellFormed_order :
    Sample.shop.profile Sample.order = .ok Sample.orderProfile ∧
      Sample.orderProfile.readable.names.Nodup ∧
      Sample.orderProfile.findName? "TOTAL" = some "total" ∧
      Sample.orderProfile.findName? "total" = some "total" := by
  obtain ⟨⟨hNodup, -⟩, -, -, hFirst, -, hFixed⟩ := profile_wellFormed Sample.profile_order
  have hFound : Sample.orderProfile.findName? "TOTAL" = some "total" :=
    (hFirst "TOTAL").trans (by cbv)
  exact ⟨Sample.profile_order, hNodup, hFound, hFixed "TOTAL" "total" hFound⟩

end Source

end Introspect
