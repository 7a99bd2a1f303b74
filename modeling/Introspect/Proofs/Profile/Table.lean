import Introspect.Profile.Build

/-!
# Tables as lists of properties

A table keeps names and properties apart. It *lists* some named properties when its names are
theirs, each once and in the order of first mention, and when the first property mentioned under a
name is the one that is found. Every step of a build extends the list that the table stands for;
most facts about tables are read off that list.

Main results:

* `Lists.addUnreserved` and `Lists.addFields`: what the steps of a build do to the list.
* `Lists.nodup` and `Lists.mem_names_iff`: the names and the properties of a table that lists
  something are in step.
-/

namespace Introspect

variable {V : Type}

/-! ## Lists of named properties -/

/-- What is left when reserved names are dropped. -/
def unreserved {α : Type} (pairs : List (String × α)) : List (String × α) :=
  pairs.filter fun pair => !PropertyName.isReserved pair.1

theorem unreserved_append {α : Type} (pairs more : List (String × α)) :
    unreserved (pairs ++ more) = unreserved pairs ++ unreserved more :=
  List.filter_append ..

/-- A name that is not reserved loses nothing. -/
theorem lookup_unreserved {α : Type} {name : String} (hName : PropertyName.isReserved name = false)
    (pairs : List (String × α)) : (unreserved pairs).lookup name = pairs.lookup name := by
  induction pairs with
  | nil => rfl
  | cons pair rest ih =>
    obtain ⟨key, item⟩ := pair
    unfold unreserved at ih ⊢
    rw [List.filter_cons]
    -- only a key of the name itself can be found, and that one is not dropped
    by_cases hSame : name = key
    · subst hSame
      simp [hName]
    · split
      · rw [List.lookup_cons, List.lookup_cons, ih]
      · rw [ih, List.lookup_cons, beq_eq_false_iff_ne.mpr hSame]

/-- A pair at the end is found where nothing was found before. -/
theorem lookup_concat {α : Type} (pairs : List (String × α)) (name other : String) (item : α) :
    (pairs ++ [(name, item)]).lookup other =
      (pairs.lookup other).or (if other = name then some item else none) := by
  rw [List.lookup_append, List.lookup_cons, List.lookup_nil]
  by_cases hSame : other = name
  · simp [hSame]
  · simp [hSame, beq_eq_false_iff_ne.mpr hSame]

/-- Only the first mention of each member stays. -/
theorem nodup_eraseDups {α : Type} [BEq α] [LawfulBEq α] (items : List α) :
    items.eraseDups.Nodup := by
  -- the members left after the first one are fewer
  induction hLength : items.length using Nat.strongRecOn generalizing items with
  | ind length ih =>
    cases items with
    | nil => exact List.nodup_nil
    | cons item rest =>
      rw [List.eraseDups_cons, List.nodup_cons]
      -- the first member is taken out of the rest, and the rest has no repetitions by induction
      refine ⟨?_, ih _ ?_ _ rfl⟩
      · rw [List.mem_eraseDups, List.mem_filter]
        simp
      · have := List.length_filter_le (fun other => !other == item) rest
        simp only [List.length_cons] at hLength
        omega

/-- What holds no repetitions loses none. -/
theorem eraseDups_of_nodup {α : Type} [BEq α] [LawfulBEq α] :
    ∀ {items : List α}, items.Nodup → items.eraseDups = items
  | [], _ => rfl
  | item :: rest, h => by
    obtain ⟨hNew, hRest⟩ := List.nodup_cons.mp h
    have hKept : rest.filter (fun other => !other == item) = rest := by
      rw [List.filter_eq_self]
      rintro other hOther
      simp only [Bool.not_eq_true', beq_eq_false_iff_ne]
      rintro rfl
      exact hNew hOther
    rw [List.eraseDups_cons, hKept, eraseDups_of_nodup hRest]

/-- What is mentioned twice in front may as well be mentioned once. -/
theorem eraseDups_append_left {α : Type} [BEq α] [LawfulBEq α] (items more : List α) :
    (items.eraseDups ++ more).eraseDups = (items ++ more).eraseDups := by
  have hSame : more.removeAll items.eraseDups = more.removeAll items := by
    unfold List.removeAll
    refine List.filter_congr fun other _ => ?_
    rw [Bool.eq_iff_iff]
    simp [List.mem_eraseDups]
  rw [List.eraseDups_append, List.eraseDups_append, eraseDups_of_nodup (nodup_eraseDups _), hSame]

/-- Dropping members and dropping repetitions go in any order. -/
theorem filter_eraseDups {α : Type} [BEq α] [LawfulBEq α] (keep : α → Bool) (items : List α) :
    items.eraseDups.filter keep = (items.filter keep).eraseDups := by
  induction hLength : items.length using Nat.strongRecOn generalizing items with
  | ind length ih =>
    cases items with
    | nil => rfl
    | cons item rest =>
      have hFewer : (rest.filter fun other => !other == item).length < length := by
        have := List.length_filter_le (fun other => !other == item) rest
        simp only [List.length_cons] at hLength
        omega
      have hRest := ih _ hFewer _ rfl
      rw [List.eraseDups_cons, List.filter_cons, List.filter_cons, hRest, List.filter_filter]
      split
      · rw [List.eraseDups_cons, List.filter_filter]
        simp only [Bool.and_comm]
      · -- a member that is dropped is dropped wherever else it stands
        rename_i hDropped
        congr 1
        refine List.filter_congr fun other _ => ?_
        by_cases hSame : other = item
        · subst hSame
          simpa using hDropped
        · simp [hSame]

namespace Table

/-! ## Single steps -/

/-- What is inserted is found under its name, and shadows what stood there. -/
theorem find?_insert (table : Table V) (name other : String) (property : Property V) :
    (table.insert name property).find? other =
      if other = name then some property else table.find? other := by
  unfold find? insert
  rw [List.lookup_cons]
  split <;> simp_all

/-- The table stands for these properties, the first of each name counting. -/
structure Lists (table : Table V) (pairs : List (String × Property V)) : Prop where
  names_eq : table.names = (pairs.map Prod.fst).eraseDups
  find?_eq : ∀ name, table.find? name = pairs.lookup name

variable {table : Table V} {pairs : List (String × Property V)}

theorem lists_empty : (empty : Table V).Lists [] := ⟨rfl, fun _ => rfl⟩

/-- Names are listed exactly where something is found. -/
theorem Lists.contains_iff (h : table.Lists pairs) {name : String} :
    table.contains name = true ↔ name ∈ pairs.map Prod.fst := by
  rw [contains, h.find?_eq, List.lookup_isSome_iff, List.mem_map]
  constructor
  · rintro ⟨pair, hPair, hName⟩
    exact ⟨pair, hPair, (beq_iff_eq.mp hName).symm⟩
  · rintro ⟨pair, hPair, rfl⟩
    exact ⟨pair, hPair, beq_self_eq_true _⟩

/-- The names that are listed are those under which something is found. -/
theorem Lists.mem_names_iff (h : table.Lists pairs) {name : String} :
    name ∈ table.names ↔ table.contains name = true := by
  rw [h.names_eq, List.mem_eraseDups, h.contains_iff]

theorem Lists.nodup (h : table.Lists pairs) : table.names.Nodup := by
  rw [h.names_eq]
  exact nodup_eraseDups _

/-- A new name comes last. -/
theorem Lists.insert (h : table.Lists pairs) {name : String} (hNew : table.contains name = false)
    (property : Property V) : (table.insert name property).Lists (pairs ++ [(name, property)]) := by
  -- nothing stands under the name yet, so that its mention at the end is the first one
  have hAbsent : name ∉ pairs.map Prod.fst := by
    rw [← h.contains_iff, hNew]
    simp
  constructor
  · have hKept : [name].removeAll (pairs.map Prod.fst) = [name] := by
      simp only [List.removeAll, List.filter_cons, List.filter_nil]
      rw [if_pos]
      simpa using hAbsent
    rw [List.map_append, List.eraseDups_append, ← h.names_eq]
    show (if table.contains name then table.names else table.names ++ [name]) =
      table.names ++ ([name].removeAll (pairs.map Prod.fst)).eraseDups
    rw [hKept, hNew]
    rfl
  · intro other
    rw [find?_insert, lookup_concat, ← h.find?_eq]
    by_cases hSame : other = name
    -- what is looked up is either the new name, under which nothing was found, or another one
    · subst hSame
      have hNone : table.find? other = none := by
        simpa [contains] using hNew
      simp [hNone]
    · simp [hSame]

/-- Mentioning a name again changes nothing. -/
theorem Lists.again (h : table.Lists pairs) {name : String} (hHeld : table.contains name = true)
    (property : Property V) : table.Lists (pairs ++ [(name, property)]) := by
  constructor
  · have hGone : [name].removeAll (pairs.map Prod.fst) = [] := by
      have hMember := h.contains_iff.mp hHeld
      simp only [List.removeAll, List.filter_cons, List.filter_nil]
      rw [if_neg]
      simpa using hMember
    rw [List.map_append, List.eraseDups_append, ← h.names_eq]
    show table.names = table.names ++ ([name].removeAll (pairs.map Prod.fst)).eraseDups
    rw [hGone, List.eraseDups_nil, List.append_nil]
  · intro other
    rw [lookup_concat, ← h.find?_eq]
    -- under the name the property that is held comes first, and the other ones are not concerned
    by_cases hSame : other = name
    · subst hSame
      obtain ⟨held, hFound⟩ := Option.isSome_iff_exists.mp hHeld
      simp [hFound]
    · simp [hSame]

/-! ## Steps of a build -/

/-- A new name comes last, unless it is reserved. -/
theorem Lists.addUnreserved (h : table.Lists (unreserved pairs)) {name : String}
    (hNew : table.contains name = false) (property : Property V) :
    (Source.addUnreserved table name property).Lists
      (unreserved (pairs ++ [(name, property)])) := by
  rw [unreserved_append]
  unfold Source.addUnreserved
  cases hReserved : PropertyName.isReserved name with
  | true =>
    -- neither the table nor the list takes the name up
    have hDropped : unreserved [(name, property)] = [] := by simp [unreserved, hReserved]
    rw [cond_true, hDropped, List.append_nil]
    exact h
  | false =>
    have hKept : unreserved [(name, property)] = [(name, property)] := by
      simp [unreserved, hReserved]
    rw [cond_false, hKept]
    exact h.insert hNew property

/-- A field is mentioned after all that is there. -/
theorem Lists.addField (h : table.Lists (unreserved pairs)) (source : Source V) (type : TypeName)
    (declared : TypeName × Field V) :
    (source.addField type table declared).Lists
      (unreserved (pairs ++ [(declared.2.name, source.fieldProperty type declared)])) := by
  unfold Source.addField
  split
  · rename_i hHeld
    -- a name that is held is not reserved
    have hKept : unreserved [(declared.2.name, source.fieldProperty type declared)] =
        [(declared.2.name, source.fieldProperty type declared)] := by
      obtain ⟨pair, hPair, hName⟩ := List.mem_map.mp (h.contains_iff.mp hHeld)
      have hFree := (List.mem_filter.mp hPair).2
      rw [hName] at hFree
      simp only [unreserved, List.filter_cons, List.filter_nil, hFree, if_true]
    rw [unreserved_append, hKept]
    exact h.again hHeld _
  · rename_i hNew
    exact h.addUnreserved (Bool.not_eq_true _ ▸ hNew) _

end Table

/-- The properties that fields back, in the order of the fields. -/
def Source.fieldPairs (source : Source V) (type : TypeName) (fields : List (TypeName × Field V)) :
    List (String × Property V) :=
  fields.map fun declared => (declared.2.name, source.fieldProperty type declared)

namespace Table

variable {table : Table V} {pairs : List (String × Property V)}

/-- Fields are mentioned one after the other, behind all that is there. -/
theorem Lists.addFields (h : table.Lists (unreserved pairs)) (source : Source V) (type : TypeName)
    (fields : List (TypeName × Field V)) :
    (source.addFields type table fields).Lists
      (unreserved (pairs ++ source.fieldPairs type fields)) := by
  unfold Source.addFields Source.fieldPairs
  induction fields generalizing table pairs with
  | nil => simpa using h
  | cons declared rest ih =>
    -- the first field ends the list that the others extend
    have hNext := ih (h.addField source type declared)
    rwa [List.append_assoc] at hNext

end Table

end Introspect
