import Introspect.Proofs.Profile.Discovery

/-!
# Which field a property goes to

Reading and writing are settled apart: each direction takes the first field of the chain that it can
use. A field that is constant or read-only is of use to readers only, so where such a field comes
first, what is written is a field that it shadows.

* `FirstOf` — a field is the first of its name to meet a test.

Main results:

* `FirstOf.find?_usable`: a stricter search ends at the first field of the name, or goes on behind it.
* `field_accessors_agree`: both directions go to the first field of the name, unless it is constant
  or read-only.
* `shadowed_field_written`: a receipt shows its own number, and another number is written.
-/

namespace Introspect

variable {V : Type} {source : Source V} {type : TypeName}

/-! ## First fields -/

/-- The fields are cut at the first one of a name that meets a test. -/
structure FirstOf (fields before after : List (TypeName × Field V)) (declared : TypeName × Field V)
    (name : String) (usable : Field V → Bool) : Prop where
  fields_eq : fields = before ++ declared :: after
  name_eq : declared.2.name = name
  usable_eq : usable declared.2 = true
  passed_over : ∀ other ∈ before, other.2.name = name → usable other.2 = false

namespace FirstOf

variable {fields before after : List (TypeName × Field V)} {declared : TypeName × Field V}
  {name : String}

/-- A search among the fields that meet a test ends at the first of the name. -/
theorem exists_of_find? (usable : Field V → Bool)
    (hFound : (fields.filter (usable ·.2)).find? (·.2.name == name) = some declared) :
    ∃ before after, FirstOf fields before after declared name usable := by
  rw [List.find?_filter, List.find?_eq_some_iff_append] at hFound
  obtain ⟨hTest, before, after, hFields, hBefore⟩ := hFound
  simp only [decide_eq_true_eq, beq_iff_eq] at hTest
  -- what comes before fails the test whenever it has the name, so it was passed over
  refine ⟨before, after, hFields, hTest.2, hTest.1, ?_⟩
  intro other hOther hName
  have hFails := hBefore other hOther
  rw [Bool.not_eq_true', decide_eq_false_iff_not] at hFails
  exact Bool.eq_false_iff.mpr fun hUsable => hFails ⟨hUsable, beq_iff_eq.mpr hName⟩

/-- With the first field of a name known, a stricter search ends there or goes on behind it. -/
theorem find?_usable (h : FirstOf fields before after declared name fun _ => true)
    (usable : Field V → Bool) :
    (fields.filter (usable ·.2)).find? (·.2.name == name) =
      bif usable declared.2 then some declared
      else (after.filter (usable ·.2)).find? (·.2.name == name) := by
  -- nothing before it has the name
  have hNone : (before.filter (usable ·.2)).find? (·.2.name == name) = none := by
    rw [List.find?_eq_none]
    intro other hOther hName
    cases h.passed_over other (List.mem_of_mem_filter hOther) (beq_iff_eq.mp hName)
  rw [h.fields_eq, List.filter_append, List.find?_append, hNone, Option.none_or, List.filter_cons]
  cases hUsable : usable declared.2 with
  | true => simp [h.name_eq]
  | false => simp

end FirstOf

/-! ## The main result -/

namespace Source

theorem isField_methodProperty (winner : Candidate V) (declared : TypeExpr) :
    (source.methodProperty type winner declared).accessor.isField = false :=
  rfl

/--
**Reading and writing go to the same field unless the nearest one is not for writing.** Let a
property be read and written through fields. It is read from the first field of its name, the type's
own fields coming first and then those of its superclasses. If that field is neither constant nor
read-only, it is also the one that is written. Otherwise the one that is written comes later: it is
the first of those behind it that are neither.
-/
theorem field_accessors_agree {profile : Profile V} (h : source.profile type = .ok profile)
    {name : String} {getter setter : Property V}
    (hGetter : profile.readable.find? name = some getter)
    (hSetter : profile.writable.find? name = some setter)
    (hRead : getter.accessor.isField = true) (hWritten : setter.accessor.isField = true) :
    ∃ before declared after,
      FirstOf (source.chainFields type) before after declared name (fun _ => true) ∧
      getter = source.fieldProperty type declared ∧
      (declared.2.isConstant = false ∧ declared.2.isReadOnly = false →
        setter = source.fieldProperty type declared) ∧
      (declared.2.isConstant = true ∨ declared.2.isReadOnly = true →
        ∃ between shadowed rest,
          FirstOf after between rest shadowed name isWritableField ∧
          setter = source.fieldProperty type shadowed) := by
  obtain ⟨getters, readers, writers, hMakes⟩ := profile_makes h
  -- both are found among the fields, since no method is a field
  rcases backed_of_parts hMakes.readers_settled hMakes.readable_lists hGetter with
    ⟨claim, -, -, winner, result, -, -, rfl⟩ | ⟨-, declared, hFirst, rfl⟩
  · rw [isField_methodProperty] at hRead
    cases hRead
  rcases backed_of_parts hMakes.writers_settled hMakes.writable_lists hSetter with
    ⟨claim, -, -, winner, taken, -, -, rfl⟩ | ⟨-, written, hWritable, rfl⟩
  · rw [isField_methodProperty] at hWritten
    cases hWritten
  rw [← List.filter_true (source.chainFields type)] at hFirst
  obtain ⟨before, after, hCut⟩ := FirstOf.exists_of_find? (fun _ => true) hFirst
  refine ⟨before, declared, after, hCut, rfl, ?_, ?_⟩
  · -- the first field of the name can be written, so the search for writers ends there too
    rintro ⟨hConstant, hReadOnly⟩
    rw [hCut.find?_usable, isWritableField, hConstant, hReadOnly] at hWritable
    obtain rfl := Option.some.inj hWritable
    rfl
  · -- it cannot, so that search goes on behind it
    intro hUnwritable
    have hUsable : isWritableField declared.2 = false := by
      rcases hUnwritable with hConstant | hReadOnly
      · simp [isWritableField, hConstant]
      · simp [isWritableField, hReadOnly]
    rw [hCut.find?_usable, hUsable, cond_false] at hWritable
    obtain ⟨between, rest, hLater⟩ := FirstOf.exists_of_find? isWritableField hWritable
    exact ⟨between, written, rest, hLater, rfl⟩

/-- An order has an identifier of its own, which shadows that of the type it extends: both directions
go to it. -/
theorem field_accessors_agree_order :
    Sample.shop.profile Sample.order = .ok Sample.orderProfile ∧
      ∃ getter setter,
        Sample.orderProfile.readable.find? "id" = some getter ∧
        Sample.orderProfile.writable.find? "id" = some setter ∧
        getter.accessor.isField = true ∧ setter.accessor.isField = true ∧ setter = getter := by
  -- both directions are found at the order's own field, which stands before that of the entity
  have hOwn : (Sample.shop.chainFields Sample.order).find? (·.2.name == "id") =
      some (Sample.order, Sample.field Sample.order "id" ⟨"String"⟩ true) := by cbv
  have hGetter : Sample.orderProfile.readable.find? "id" = some (Sample.shop.fieldProperty
      Sample.order (Sample.order, Sample.field Sample.order "id" ⟨"String"⟩ true)) := by cbv
  have hSetter : Sample.orderProfile.writable.find? "id" = some (Sample.shop.fieldProperty
      Sample.order (Sample.order, Sample.field Sample.order "id" ⟨"String"⟩ true)) := by cbv
  obtain ⟨before, declared, after, hCut, hRead, hAgree, -⟩ :=
    field_accessors_agree Sample.profile_order hGetter hSetter rfl rfl
  -- the first field of the name is the order's own, which is no constant
  have hFirst := hCut.find?_usable fun _ => true
  rw [List.filter_true, hOwn] at hFirst
  obtain rfl := Option.some.inj hFirst
  exact ⟨Sample.profile_order, _, _, hGetter, hSetter, rfl, rfl, (hAgree ⟨rfl, rfl⟩).trans hRead.symm⟩

end Source

/-! ## A sample -/

namespace Sample

def paper : TypeName := ⟨"Paper"⟩

def receipt : TypeName := ⟨"Receipt"⟩

/-- A receipt shows a number of its own, which is not for writing. The paper that it is printed on is
numbered too. -/
def papers : Source Value :=
  (Catalog.mk
    [{ Description.plain paper .concrete with fields := [field paper "number" ⟨"i64"⟩ true] },
      { Description.plain receipt .concrete with
        superclass? := some (.named paper)
        fields := [field receipt "number" ⟨"i64"⟩ false] }]).toSource

end Sample

namespace Source

/-- A receipt shows its own number, and the number of the paper is written. -/
theorem shadowed_field_written :
    ∃ getter setter,
      Sample.papers.profile Sample.receipt =
        .ok (Sample.profileOf Sample.papers Sample.receipt) ∧
      (Sample.profileOf Sample.papers Sample.receipt).readable.find? "number" = some getter ∧
      (Sample.profileOf Sample.papers Sample.receipt).writable.find? "number" = some setter ∧
      getter.accessor.isField = true ∧ setter.accessor.isField = true ∧
      getter.accessor.declaring = Sample.receipt ∧ setter.accessor.declaring = Sample.paper := by
  refine ⟨Sample.papers.fieldProperty Sample.receipt
      (Sample.receipt, Sample.field Sample.receipt "number" ⟨"i64"⟩ false),
    Sample.papers.fieldProperty Sample.receipt
      (Sample.paper, Sample.field Sample.paper "number" ⟨"i64"⟩ true),
    Sample.profile_eq_profileOf (by cbv), by cbv, by cbv, rfl, rfl, rfl, rfl⟩

end Source

end Introspect
