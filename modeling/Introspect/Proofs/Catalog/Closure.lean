import Introspect.Catalog
import Mathlib.Data.List.Nodup

/-!
# What registration adds

Registering a type calls itself for every type that it refers to, and stops at the types that the
catalog has. That the calls come to an end, and what they leave behind, is said in two ways.

* `Catalog.Registers` follows the calls one by one: the catalog is handed from call to call, and a
  type that is missing is added before what it refers to is registered.
* `Family.Reaches` knows nothing of calls: a missing member is reached from some types if a chain of
  references leads there through missing members only.

Every call ends, in the catalog that `registerAll` computes (`Catalog.registers_iff`), and that one
has grown by just the members reached (**`Catalog.get?_registerAll`**).
-/

namespace Introspect

variable {V : Type} {family : Family V} {catalog : Catalog V} {member : Registrable V}
  {starts more pending : List TypeName} {type : TypeName} {description : Description V}

/-! ## What is missing -/

namespace Catalog

theorem contains_eq_false_iff : catalog.contains type = false ↔ catalog.get? type = none := by
  rw [contains, Option.isSome_eq_false_iff, Option.isNone_iff_eq_none]

/-- After a type is added, all others are missing that were missing before. -/
theorem contains_insert_eq_false_iff :
    (catalog.insert description).contains type = false ↔
      catalog.contains type = false ∧ description.type ≠ type := by
  rw [contains_insert, Bool.or_eq_false_iff, beq_eq_false_iff_ne]

end Catalog

/-! ## Members by name -/

namespace Family

/-- The member of a name has it. -/
theorem mem_of_find? (hFind : family.find? type = some member) :
    member ∈ family ∧ member.description.type = type := by
  refine ⟨List.mem_of_find?_eq_some hFind, ?_⟩
  have hType := List.find?_some hFind
  simpa using hType

/-- A name that no member has. -/
def Foreign (family : Family V) (type : TypeName) : Prop :=
  ∀ member ∈ family, member.description.type ≠ type

/-- Where no member is found, none has the name. -/
theorem foreign_of_find?_eq_none (hFind : family.find? type = none) : family.Foreign type := by
  intro member hMember
  have hOther := List.find?_eq_none.mp hFind member hMember
  simpa using hOther

/-- The members of a family have names of their own. -/
def Distinct (family : Family V) : Prop := (family.map (·.description.type)).Nodup

instance (family : Family V) : Decidable family.Distinct :=
  inferInstanceAs (Decidable (List.Nodup _))

/-- Where names are distinct, members of one name are one member. -/
theorem eq_of_type_eq (hNames : family.Distinct) {other : Registrable V}
    (hMember : member ∈ family) (hOther : other ∈ family)
    (hType : member.description.type = other.description.type) : member = other :=
  List.inj_on_of_nodup_map hNames hMember hOther hType

/-- Where names are distinct, a member is found by its name. -/
theorem find?_of_mem (hNames : family.Distinct) (hMember : member ∈ family) :
    family.find? member.description.type = some member := by
  cases hFind : family.find? member.description.type with
  | none => exact absurd rfl (foreign_of_find?_eq_none hFind member hMember)
  | some other =>
    obtain ⟨hOther, hType⟩ := mem_of_find? hFind
    rw [eq_of_type_eq hNames hOther hMember hType]

/-! ## Reaching -/

/-- A member that the catalog lacks is reached from the starts through members that it lacks. -/
inductive Reaches (family : Family V) (catalog : Catalog V) (starts : List TypeName) :
    Registrable V → Prop where
  /-- A member is one of the starts. -/
  | start {member : Registrable V} (hMember : member ∈ family)
      (hMissing : catalog.contains member.description.type = false)
      (hStart : member.description.type ∈ starts) : Reaches family catalog starts member
  /-- A member is referred to by one that is reached. -/
  | step {origin member : Registrable V} (hOrigin : Reaches family catalog starts origin)
      (hMember : member ∈ family) (hMissing : catalog.contains member.description.type = false)
      (hRefers : member.description.type ∈ origin.dependencies) :
      Reaches family catalog starts member

namespace Reaches

theorem mem (h : family.Reaches catalog starts member) : member ∈ family := by
  cases h with
  | start hMember _ _ => exact hMember
  | step _ hMember _ _ => exact hMember

/-- Only missing members count, both of the catalog and of the starts. -/
theorem mono {other : Catalog V} (h : family.Reaches catalog starts member)
    (hCatalog : ∀ member ∈ family, catalog.contains member.description.type = false →
      other.contains member.description.type = false)
    (hStarts : ∀ member ∈ family, catalog.contains member.description.type = false →
      member.description.type ∈ starts → member.description.type ∈ more) :
    family.Reaches other more member := by
  -- along the chain, whose members were all missing
  induction h with
  | start hMember hMissing hStart =>
    exact .start hMember (hCatalog _ hMember hMissing) (hStarts _ hMember hMissing hStart)
  | step _ hMember hMissing hRefers ih =>
    exact .step ih hMember (hCatalog _ hMember hMissing) hRefers

end Reaches

/-- Without a start, nothing is reached. -/
theorem not_reaches_nil : ¬family.Reaches catalog [] member := by
  intro h
  induction h with
  | start _ _ hStart => exact absurd hStart List.not_mem_nil
  | step _ _ _ _ ih => exact ih

/-- A start that is no missing member leads nowhere. -/
theorem reaches_skip (hSkip : ∀ member ∈ family, catalog.contains member.description.type = false →
      member.description.type ≠ type) :
    family.Reaches catalog (type :: starts) member ↔ family.Reaches catalog starts member := by
  -- a chain begins at a missing member, so not at this start
  constructor
  · intro h
    refine h.mono (fun _ _ hMissing => hMissing) fun other hOther hMissing hStart => ?_
    exact (List.mem_cons.mp hStart).resolve_left (hSkip other hOther hMissing)
  · intro h
    exact h.mono (fun _ _ hMissing => hMissing) fun _ _ _ hStart => List.mem_cons_of_mem _ hStart

/-- Once a missing start is added, the rest is reached from what it refers to and from the other
starts, without passing through it again. -/
theorem reaches_cons_iff (hNames : family.Distinct) {start : Registrable V}
    (hStart : start ∈ family) (hMissing : catalog.contains start.description.type = false) :
    family.Reaches catalog (start.description.type :: starts) member ↔
      member = start ∨ family.Reaches (catalog.insert start.description)
        (start.dependencies ++ starts) member := by
  constructor
  · -- where a chain comes back to the start, it may as well begin there
    intro h
    induction h with
    | @start other hMember hLacks hAmong =>
      rcases List.mem_cons.mp hAmong with hSame | hRest
      · exact .inl (eq_of_type_eq hNames hMember hStart hSame)
      · by_cases hSame : start.description.type = other.description.type
        · exact .inl (eq_of_type_eq hNames hMember hStart hSame.symm)
        · exact .inr (.start hMember (Catalog.contains_insert_eq_false_iff.mpr ⟨hLacks, hSame⟩)
            (List.mem_append_right _ hRest))
    | @step _ other _ hMember hLacks hRefers ih =>
      by_cases hSame : start.description.type = other.description.type
      · exact .inl (eq_of_type_eq hNames hMember hStart hSame.symm)
      · have hLacksAfter := Catalog.contains_insert_eq_false_iff.mpr ⟨hLacks, hSame⟩
        rcases ih with rfl | hOrigin
        · exact .inr (.start hMember hLacksAfter (List.mem_append_left _ hRefers))
        · exact .inr (.step hOrigin hMember hLacksAfter hRefers)
  · -- the start is reached, and so is what is reached from it
    intro h
    have hReached : family.Reaches catalog (start.description.type :: starts) start :=
      .start hStart hMissing List.mem_cons_self
    rcases h with rfl | hLater
    · exact hReached
    -- along the chain, in which all were missing before as well
    · induction hLater with
      | start hMember hLacks hAmong =>
        have hLacksBefore := (Catalog.contains_insert_eq_false_iff.mp hLacks).1
        rcases List.mem_append.mp hAmong with hRefers | hRest
        · exact .step hReached hMember hLacksBefore hRefers
        · exact .start hMember hLacksBefore (List.mem_cons_of_mem _ hRest)
      | step _ hMember hLacks hRefers ih =>
        exact .step ih hMember (Catalog.contains_insert_eq_false_iff.mp hLacks).1 hRefers

end Family

/-! ## The catalog afterwards -/

namespace Catalog

/-- **What registration adds**: a type is described afterwards as it was before, or as the member
reached describes it, and else not at all. -/
theorem get?_registerAll (hNames : family.Distinct) :
    (catalog.registerAll family pending).get? type = some description ↔
      catalog.get? type = some description ∨
        ∃ member, family.Reaches catalog pending member ∧ member.description.type = type ∧
          member.description = description := by
  -- call by call, with what is pending as the starts
  fun_induction registerAll family catalog pending with
  | case1 catalog =>
    have hNone : ¬∃ member, family.Reaches catalog [] member ∧ member.description.type = type ∧
        member.description = description := by
      rintro ⟨member, hReaches, -⟩
      exact Family.not_reaches_nil hReaches
    rw [or_iff_left hNone]
  | case2 catalog next rest hPresent ih =>
    -- a type that is described is not missing, and nothing is reached from it
    have hSkip : ∀ member ∈ family, catalog.contains member.description.type = false →
        member.description.type ≠ next := by
      rintro member - hMissing rfl
      exact absurd (hPresent.symm.trans hMissing) (by decide)
    simp only [ih, Family.reaches_skip hSkip]
  | case3 catalog next rest hMissing hFind ih =>
    -- a name that no member has leads nowhere either
    have hSkip : ∀ member ∈ family, catalog.contains member.description.type = false →
        member.description.type ≠ next :=
      fun member hMember _ => Family.foreign_of_find?_eq_none hFind member hMember
    simp only [ih, Family.reaches_skip hSkip]
  | case4 catalog next rest hMissing start hFind ih =>
    obtain ⟨hStart, rfl⟩ := Family.mem_of_find? hFind
    have hLacks : catalog.contains start.description.type = false := by simpa using hMissing
    simp only [ih, Family.reaches_cons_iff hNames hStart hLacks, get?_insert]
    by_cases hSame : start.description.type = type
    · subst hSame
      -- what is added is found under its type, under which nothing was found before
      have hBefore := contains_eq_false_iff.mp hLacks
      rw [if_pos rfl, hBefore]
      constructor
      · rintro (hFound | ⟨member, hReaches, hType, rfl⟩)
        · exact .inr ⟨start, .inl rfl, rfl, Option.some.inj hFound⟩
        · exact .inr ⟨member, .inr hReaches, hType, rfl⟩
      · rintro (hFound | ⟨member, rfl | hReaches, hType, rfl⟩)
        · cases hFound
        · exact .inl rfl
        · exact .inr ⟨member, hReaches, hType, rfl⟩
    · -- of any other type nothing new is told
      rw [if_neg hSame]
      constructor
      · rintro (hFound | ⟨member, hReaches, hType, rfl⟩)
        · exact .inl hFound
        · exact .inr ⟨member, .inr hReaches, hType, rfl⟩
      · rintro (hFound | ⟨member, rfl | hReaches, hType, rfl⟩)
        · exact .inl hFound
        · exact absurd hType hSame
        · exact .inr ⟨member, hReaches, hType, rfl⟩

/-! ## One registration after another -/

theorem registerAll_nil : catalog.registerAll family [] = catalog := by
  rw [registerAll]

theorem registerAll_cons_of_contains (hPresent : catalog.contains type = true) :
    catalog.registerAll family (type :: pending) = catalog.registerAll family pending := by
  rw [registerAll, dif_pos hPresent]

/-- A type that no member has is passed over. -/
theorem registerAll_cons_of_foreign (hForeign : family.Foreign type) :
    catalog.registerAll family (type :: pending) = catalog.registerAll family pending := by
  rw [registerAll]
  split
  · rfl
  · split
    · rfl
    · rename_i start hFind
      obtain ⟨hStart, hType⟩ := Family.mem_of_find? hFind
      exact absurd hType (hForeign start hStart)

/-- A missing member is added, and what it refers to becomes pending. -/
theorem registerAll_cons_of_find? (hFind : family.find? type = some member)
    (hMissing : catalog.contains type = false) :
    catalog.registerAll family (type :: pending) =
      (catalog.insert member.description).registerAll family (member.dependencies ++ pending) := by
  rw [registerAll, dif_neg (by simp [hMissing])]
  split
  · rename_i hNone
    rw [hFind] at hNone
    cases hNone
  · rename_i start hStart
    rw [hFind] at hStart
    cases hStart
    rfl

/-- What is pending later may as well be registered by a later call. -/
theorem registerAll_append :
    catalog.registerAll family (pending ++ more) =
      (catalog.registerAll family pending).registerAll family more := by
  -- call by call, each of which leaves what is pending later behind
  fun_induction registerAll family catalog pending with
  | case1 catalog => rfl
  | case2 catalog next rest hPresent ih =>
    rw [List.cons_append, registerAll_cons_of_contains hPresent, ih]
  | case3 catalog next rest hMissing hFind ih =>
    rw [List.cons_append, registerAll_cons_of_foreign (Family.foreign_of_find?_eq_none hFind), ih]
  | case4 catalog next rest hMissing start hFind ih =>
    have hLacks : catalog.contains next = false := by simpa using hMissing
    rw [List.cons_append, registerAll_cons_of_find? hFind hLacks, ← List.append_assoc, ih]

/-! ## Calls -/

/-- Registration of the types that some shapes refer to, one call after another: from the catalog
that it starts on to the one that it leaves. -/
inductive Registers (family : Family V) : Catalog V → List Shape → Catalog V → Prop where
  /-- Nothing is left to register. -/
  | done (catalog : Catalog V) : Registers family catalog [] catalog
  /-- A primitive has nothing to register. -/
  | primitive {catalog after : Catalog V} {name : String} {rest : List Shape}
      (hRest : Registers family catalog rest after) :
      Registers family catalog (.primitive name :: rest) after
  /-- A text has nothing to register. -/
  | text {catalog after : Catalog V} {rest : List Shape}
      (hRest : Registers family catalog rest after) : Registers family catalog (.text :: rest) after
  /-- Slots have nothing to register. -/
  | slots {catalog after : Catalog V} {rest : List Shape}
      (hRest : Registers family catalog rest after) :
      Registers family catalog (.slots :: rest) after
  /-- A list registers what its elements register. -/
  | list {catalog after : Catalog V} {element : Shape} {rest : List Shape}
      (hRest : Registers family catalog (element :: rest) after) :
      Registers family catalog (.list element :: rest) after
  /-- What may be absent registers what is there. -/
  | optional {catalog after : Catalog V} {value : Shape} {rest : List Shape}
      (hRest : Registers family catalog (value :: rest) after) :
      Registers family catalog (.optional value :: rest) after
  /-- A type that is described already is passed over. -/
  | present {catalog after : Catalog V} {ident : String} {type : TypeName} {rest : List Shape}
      (hPresent : catalog.contains type = true) (hRest : Registers family catalog rest after) :
      Registers family catalog (.record ident type :: rest) after
  /-- A type outside of the family registers nothing. -/
  | foreign {catalog after : Catalog V} {ident : String} {type : TypeName} {rest : List Shape}
      (hForeign : family.Foreign type)
      (hRest : Registers family catalog rest after) :
      Registers family catalog (.record ident type :: rest) after
  /-- A missing member is added, and all that it refers to is registered before the call returns. -/
  | added {catalog middle after : Catalog V} {ident : String} {member : Registrable V}
      {rest : List Shape} (hMember : member ∈ family)
      (hMissing : catalog.contains member.description.type = false)
      (hCall : Registers family (catalog.insert member.description) member.shapes middle)
      (hRest : Registers family middle rest after) :
      Registers family catalog (.record ident member.description.type :: rest) after

/-- Calls leave what `registerAll` computes: what is pending there is what the calls that have not
returned yet still have to do. -/
theorem Registers.eq_registerAll {shapes : List Shape} {after : Catalog V}
    (hNames : family.Distinct) (h : Registers family catalog shapes after) :
    after = catalog.registerAll family (shapes.flatMap Shape.references) := by
  -- call by call, what a call leaves being where the next one begins
  induction h with
  | done catalog => exact registerAll_nil.symm
  | primitive _ ih => exact ih
  | text _ ih => exact ih
  | slots _ ih => exact ih
  | list _ ih => exact ih
  | optional _ ih => exact ih
  | present hPresent _ ih => exact ih.trans (registerAll_cons_of_contains hPresent).symm
  | foreign hForeign _ ih => exact ih.trans (registerAll_cons_of_foreign hForeign).symm
  | @added catalog middle after ident member rest hMember hMissing _ _ ihCall ihRest =>
    have hFind := Family.find?_of_mem hNames hMember
    calc after = middle.registerAll family (rest.flatMap Shape.references) := ihRest
      _ = (catalog.insert member.description).registerAll family
            (member.dependencies ++ rest.flatMap Shape.references) := by
          rw [ihCall, ← registerAll_append]
          rfl
      _ = catalog.registerAll family
            ((Shape.record ident member.description.type :: rest).flatMap Shape.references) :=
          (registerAll_cons_of_find? hFind hMissing).symm

/-- What is described stays described. -/
theorem contains_registerAll (hPresent : catalog.contains type = true) :
    (catalog.registerAll family pending).contains type = true := by
  -- call by call, and no call takes anything away
  fun_induction registerAll family catalog pending with
  | case1 catalog => exact hPresent
  | case2 catalog next rest _ ih => exact ih hPresent
  | case3 catalog next rest _ _ ih => exact ih hPresent
  | case4 catalog next rest _ start _ ih =>
    refine ih ?_
    rw [contains_insert, hPresent, Bool.true_or]

/-- Registration leaves no more members missing than there were. -/
theorem missing_registerAll_le (catalog : Catalog V) (pending : List TypeName) :
    family.missing (catalog.registerAll family pending) ≤ family.missing catalog := by
  -- a member that is missing afterwards was missing before
  refine List.countP_mono_left fun member _ hMissing => ?_
  simp only [Bool.not_eq_true'] at hMissing ⊢
  by_contra hPresent
  rw [contains_registerAll (by simpa using hPresent)] at hMissing
  cases hMissing

/-- **Calls come to an end**: every call of a missing type adds a member of the family, and those
made meanwhile add more, so that fewer are missing for the calls that follow. -/
theorem registers_registerAll (hNames : family.Distinct) (catalog : Catalog V)
    (shapes : List Shape) :
    Registers family catalog shapes
      (catalog.registerAll family (shapes.flatMap Shape.references)) := by
  match shapes with
  | [] =>
    rw [List.flatMap_nil, registerAll_nil]
    exact .done catalog
  | .primitive name :: rest => exact .primitive (registers_registerAll hNames catalog rest)
  | .text :: rest => exact .text (registers_registerAll hNames catalog rest)
  | .slots :: rest => exact .slots (registers_registerAll hNames catalog rest)
  | .list element :: rest => exact .list (registers_registerAll hNames catalog (element :: rest))
  | .optional value :: rest =>
    exact .optional (registers_registerAll hNames catalog (value :: rest))
  | .record ident type :: rest =>
    show Registers family catalog _ (registerAll _ _ (type :: rest.flatMap Shape.references))
    by_cases hPresent : catalog.contains type = true
    · rw [registerAll_cons_of_contains hPresent]
      exact .present hPresent (registers_registerAll hNames catalog rest)
    -- a member is called for, or the name is nobody's
    · cases hFind : family.find? type with
      | none =>
        have hForeign := Family.foreign_of_find?_eq_none hFind
        rw [registerAll_cons_of_foreign hForeign]
        exact .foreign hForeign (registers_registerAll hNames catalog rest)
      | some member =>
        have hMissing : catalog.contains type = false := by simpa using hPresent
        have hFewer := missing_insert_lt hPresent hFind
        -- after the call of the member there are fewer missing than before it
        have hStill : family.missing ((catalog.insert member.description).registerAll family
            (member.shapes.flatMap Shape.references)) < family.missing catalog :=
          Nat.lt_of_le_of_lt (missing_registerAll_le _ _) hFewer
        rw [registerAll_cons_of_find? hFind hMissing, registerAll_append]
        obtain ⟨hMember, rfl⟩ := Family.mem_of_find? hFind
        exact .added hMember hMissing (registers_registerAll hNames _ member.shapes)
          (registers_registerAll hNames _ rest)
termination_by (family.missing catalog, sizeOf shapes)

/-- Every call leaves one catalog, the one that `registerAll` computes. -/
theorem registers_iff (hNames : family.Distinct) {shapes : List Shape} {after : Catalog V} :
    Registers family catalog shapes after ↔
      after = catalog.registerAll family (shapes.flatMap Shape.references) := by
  constructor
  · intro h
    exact h.eq_registerAll hNames
  · rintro rfl
    exact registers_registerAll hNames catalog shapes

end Catalog

end Introspect
