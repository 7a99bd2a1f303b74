import Introspect.Copy
import Introspect.Proofs.Hierarchy.Walk
import Introspect.Proofs.Record.Laws

/-!
# What a copy copies

A copy goes through the fields of a class and of what it extends, and any of them may fail to be read
or refuse to be written. Nothing stops the copy: it counts the fields that it has written, and the
target differs by just these writes from what it was before.

* `Source.Lineage`: the classes of a chain, which ends where it would go round in a circle.
* `Copying.Transfers`: a copy as it goes, one field after the other.
* `Copying.Lawful`: bodies under which a copy holds what its origin does; `Copying.WritesBack`: bodies
  that change nothing when they write what is there.

Main results:

* `exists_transfers` and `run_copyFields`: a copy comes to its end, and counts its writes.
* `Transfers.view_eq` and `Transfers.get_eq`: nothing else changes, and what was written is there.
* `Transfers.repeat`: the next copy makes the same writes.
* `copies_what_is_counted`: all of it for a type, through whatever caches.
* `copied_again_differently`: a body that counts its writes, and a root with a field.
-/

namespace Introspect

variable {V : Type} {source : Source V} {type : TypeName}

/-! ## The fields of a chain -/

namespace Source

/-- The classes of a chain, from a type upwards. It ends with a class that extends nothing, and before
the root of all classes, a type without a description and a class that was met below. -/
inductive Lineage (source : Source V) : List TypeName → Option TypeName → List (Described V) → Prop
  where
  | top {met : List TypeName} : Lineage source met none []
  | stop {met : List TypeName} {type : TypeName}
      (hStop : type = .object ∨ source.describe type = none ∨ type ∈ met) :
      Lineage source met (some type) []
  | climb {met : List TypeName} {type : TypeName} {description : Description V}
      {above : List (Described V)} (hOther : type ≠ .object)
      (hSome : source.describe type = some description) (hNew : type ∉ met)
      (hAbove : Lineage source (type :: met) description.superclassName? above) :
      Lineage source met (some type) ((type, description) :: above)

/-- The chain that a build climbs is a chain in this sense. -/
theorem lineage_superclassChain (source : Source V) (met : List TypeName) (type : TypeName) :
    source.Lineage met (some type) (source.superclassChain met type) := by
  fun_induction source.superclassChain met type with
  | case1 met type hStop =>
    rcases hStop with hRoot | hOld
    · exact .stop (.inl hRoot)
    · exact .stop (.inr (.inr hOld))
  | case2 met type _ hNone => exact .stop (.inr (.inl hNone))
  | case3 met type hGo description hSome ih =>
    obtain ⟨hOther, hNew⟩ := not_or.mp hGo
    refine .climb hOther hSome hNew ?_
    -- what is above begins with the superclass, if there is one
    cases hSuperclass : description.superclassName? with
    | none => exact .top
    | some superclass => exact ih superclass

/-- No class stands in a chain twice, and none that was met before. -/
theorem Lineage.nodup {met : List TypeName} {start : Option TypeName} {classes : List (Described V)}
    (h : source.Lineage met start classes) :
    (classes.map Prod.fst).Nodup ∧ ∀ owner ∈ classes, owner.1 ∉ met := by
  induction h with
  | top => simp
  | stop => simp
  | @climb met type description above _ _ hNew _ ih =>
    -- what stands above has met the class
    obtain ⟨hNodup, hAbove⟩ := ih
    have hOnce : type ∉ above.map Prod.fst := by
      intro hMem
      obtain ⟨owner, hOwner, hSame⟩ := List.mem_map.mp hMem
      exact hAbove owner hOwner (hSame ▸ List.mem_cons_self)
    refine ⟨List.nodup_cons.mpr ⟨hOnce, hNodup⟩, ?_⟩
    intro owner hOwner
    rcases List.mem_cons.mp hOwner with rfl | hOwner
    · exact hNew
    · exact fun hMet => hAbove owner hOwner (List.mem_cons_of_mem _ hMet)

/-- The fields that classes declare, constants left out. -/
def fieldsOf (classes : List (Described V)) : List (Accessor V) :=
  classes.flatMap fun owner =>
    (owner.2.fields.filter (!·.isConstant)).map (Accessor.ofField owner.1)

/-- The fields that a copy goes through. -/
def copiedFields (source : Source V) (type : TypeName) : List (Accessor V) :=
  fieldsOf (source.superclassChain [] type)

/-- The fields that a copy goes through are those of the chain, without constants. -/
theorem map_chainFields :
    ((source.chainFields type).filter (!·.2.isConstant)).map (fun declared =>
      Accessor.ofField declared.1 declared.2) = source.copiedFields type := by
  -- constants are left out class by class, or from the whole chain
  unfold chainFields copiedFields fieldsOf
  rw [List.filter_flatMap, List.map_flatMap]
  congr 1
  funext owner
  rw [List.filter_map, List.map_map]
  rfl

end Source

/-! ## One field after the other -/

namespace Copying

variable {origin target after later : V} {all fields : List (Accessor V)} {field other : Accessor V}
  {value : Option V} {writes : List (Accessor V × Option V)}

/-- A copy of fields from one object to another: the writes that it makes, and what becomes of the
other object. A field that cannot be read is passed over, and so is one that refuses what was read;
both leave the other object as it is. -/
inductive Transfers (origin : V) :
    V → List (Accessor V) → List (Accessor V × Option V) → V → Prop where
  | done {target : V} : Transfers origin target [] [] target
  | unread {target after : V} {field : Accessor V} {fields : List (Accessor V)}
      {writes : List (Accessor V × Option V)} {cause : AccessError}
      (hGet : field.get origin = .error cause)
      (hRest : Transfers origin target fields writes after) :
      Transfers origin target (field :: fields) writes after
  | refused {target after : V} {field : Accessor V} {fields : List (Accessor V)}
      {writes : List (Accessor V × Option V)} {value : Option V} {cause : AccessError}
      (hGet : field.get origin = .ok value)
      (hSet : field.set target value = (target, .error cause))
      (hRest : Transfers origin target fields writes after) :
      Transfers origin target (field :: fields) writes after
  | written {target next after : V} {field : Accessor V} {fields : List (Accessor V)}
      {writes : List (Accessor V × Option V)} {value : Option V}
      (hGet : field.get origin = .ok value) (hSet : field.set target value = (next, .ok ()))
      (hRest : Transfers origin next fields writes after) :
      Transfers origin target (field :: fields) ((field, value) :: writes) after

/-- The write bodies of fields leave alone what they fail to write. -/
def WritesAtomically (fields : List (Accessor V)) : Prop :=
  ∀ field ∈ fields, ∀ body, field.writer? = some body → Writer.Atomic body

/-- A field with an atomic body, or with none, fails without a change. -/
theorem WritesAtomically.eq_of_fails {object value after cause} (h : WritesAtomically fields)
    (hField : field ∈ fields) (hSet : field.set object value = (after, .error cause)) :
    after = object := by
  -- what cannot be written at all is left alone without a body
  unfold Accessor.set at hSet
  cases hWriter : field.writer? with
  | none =>
    rw [hWriter] at hSet
    cases hSet
    rfl
  | some body =>
    rw [hWriter] at hSet
    exact h field hField body hWriter object value after cause hSet

/-- **A copy comes to its end**, whichever of the fields fail. -/
theorem exists_transfers (origin target : V) (h : WritesAtomically fields) :
    ∃ writes after, Transfers origin target fields writes after := by
  -- field by field, whatever the target has become
  induction fields generalizing target with
  | nil => exact ⟨[], target, .done⟩
  | cons field fields ih =>
    have hRest : WritesAtomically fields := fun other hOther => h other (.tail _ hOther)
    cases hGet : field.get origin with
    | error cause =>
      obtain ⟨writes, after, hTransfers⟩ := ih target hRest
      exact ⟨writes, after, .unread hGet hTransfers⟩
    | ok value =>
      rcases hSet : field.set target value with ⟨next, cause | ⟨⟩⟩
      · obtain rfl : next = target := h.eq_of_fails List.mem_cons_self hSet
        obtain ⟨writes, after, hTransfers⟩ := ih next hRest
        exact ⟨writes, after, .refused hGet hSet hTransfers⟩
      · obtain ⟨writes, after, hTransfers⟩ := ih next hRest
        exact ⟨(field, value) :: writes, after, .written hGet hSet hTransfers⟩

/-- The program goes through the fields as a copy does, and counts the writes. -/
theorem foldl_copyField {declared : List (TypeName × Field V)} (state : Source.CopyState V)
    (h : Transfers origin state.target
      (declared.map fun declared => .ofField declared.1 declared.2) writes after) :
    (declared.foldl (Source.copyField origin) state).copied = state.copied + writes.length ∧
      (declared.foldl (Source.copyField origin) state).target = after := by
  -- along the fields: what the program does for each is what the copy does
  induction declared generalizing state writes with
  | nil =>
    cases h
    exact ⟨rfl, rfl⟩
  | cons first declared ih =>
    rw [List.foldl_cons]
    -- what the first field does to the state; the events are of no account here
    cases h with
    | unread hGet hRest =>
      obtain ⟨events, hStep⟩ : ∃ events,
          Source.copyField origin state first = ⟨state.copied, state.target, events⟩ := by
        unfold Source.copyField
        simp [hGet]
      rw [hStep]
      exact ih _ hRest
    | refused hGet hSet hRest =>
      obtain ⟨events, hStep⟩ : ∃ events,
          Source.copyField origin state first = ⟨state.copied, state.target, events⟩ := by
        unfold Source.copyField
        simp [hGet, hSet]
      rw [hStep]
      exact ih _ hRest
    | @written _ next _ _ _ writes _ hGet hSet hRest =>
      have hStep : Source.copyField origin state first =
          ⟨state.copied + 1, next, state.events⟩ := by
        unfold Source.copyField
        simp [hGet, hSet]
      rw [hStep]
      obtain ⟨hCount, hTarget⟩ := ih ⟨state.copied + 1, next, state.events⟩ hRest
      refine ⟨?_, hTarget⟩
      rw [hCount, List.length_cons]
      dsimp only
      omega

/-! ## What changes and what does not -/

/-- What is written was read from the origin. -/
theorem Transfers.mem_of_mem (h : Transfers origin target fields writes after)
    (hWrite : (field, value) ∈ writes) : field ∈ fields ∧ field.get origin = .ok value := by
  -- only a write adds to what is written
  induction h with
  | done => cases hWrite
  | unread _ _ ih => exact ⟨.tail _ (ih hWrite).1, (ih hWrite).2⟩
  | refused _ _ _ ih => exact ⟨.tail _ (ih hWrite).1, (ih hWrite).2⟩
  | written hGet _ _ ih =>
    rcases List.mem_cons.mp hWrite with hFirst | hLater
    · cases hFirst
      exact ⟨List.mem_cons_self, hGet⟩
    · exact ⟨.tail _ (ih hLater).1, (ih hLater).2⟩

/-- **Whatever the writes leave alone stays as it was**, be it seen through a field or in any other
way. -/
theorem Transfers.view_eq {Seen : Type} {view : V → Seen}
    (h : Transfers origin target fields writes after)
    (hView : ∀ field value, (field, value) ∈ writes →
      ∀ object next, field.set object value = (next, .ok ()) → view next = view object) :
    view after = view target := by
  -- field by field, and only writes matter
  induction h with
  | done => rfl
  | unread _ _ ih => exact ih hView
  | refused _ _ _ ih => exact ih hView
  | written _ hSet _ ih =>
    have hFirst := hView _ _ List.mem_cons_self _ _ hSet
    have hRest := ih fun field value hWrite => hView field value (.tail _ hWrite)
    exact hRest.trans hFirst

/-! ## Lawful bodies -/

/-- Bodies of fields for which a copy is as good as its origin. -/
structure Lawful (fields : List (Accessor V)) : Prop where
  /-- What is put into a field is what one gets from it. -/
  put_get : ∀ {field}, field ∈ fields → ∀ {object value after},
    field.set object value = (after, .ok ()) → field.get after = .ok value
  /-- Fields are independent: one that is written leaves the others as they read. -/
  get_set : ∀ {field other}, field ∈ fields → other ∈ fields → other ≠ field →
    ∀ {object value after}, field.set object value = (after, .ok ()) →
      other.get after = other.get object
  /-- Whether a field takes a value does not depend on what the fields hold. -/
  takes_set : ∀ {field other}, field ∈ fields → other ∈ fields →
    ∀ {object value after}, field.set object value = (after, .ok ()) → ∀ content,
      (other.set after content).2.isOk = (other.set object content).2.isOk

/-- What was written by a copy is read from the target as from the origin, and it stays so. -/
theorem Transfers.get_eq (h : Transfers origin target fields writes after) (hLawful : Lawful all)
    (hAll : fields ⊆ all) (hField : field ∈ all) :
    (field.get target = field.get origin ∨ ∃ value, (field, value) ∈ writes) →
      field.get after = field.get origin := by
  -- a field that is written later is settled then, and any other one stays as it reads
  induction h with
  | done =>
    rintro (hSame | ⟨value, hWrite⟩)
    · exact hSame
    · cases hWrite
  | unread _ _ ih => exact ih (List.subset_of_cons_subset hAll)
  | refused _ _ _ ih => exact ih (List.subset_of_cons_subset hAll)
  | @written _ _ _ first _ _ content hGet hSet _ ih =>
    intro hBefore
    have hFirst : first ∈ all := hAll List.mem_cons_self
    have hPut := hLawful.put_get hFirst hSet
    refine ih (List.subset_of_cons_subset hAll) ?_
    by_cases hSame : field = first
    · -- the field is written just now, with what the origin holds
      subst hSame
      exact .inl (hPut.trans hGet.symm)
    · rcases hBefore with hBefore | ⟨value, hWrite⟩
      · exact .inl ((hLawful.get_set hFirst hField hSame hSet).trans hBefore)
      · have hLater := (List.mem_cons.mp hWrite).resolve_left fun hEq => hSame (Prod.ext_iff.mp hEq).1
        exact .inr ⟨value, hLater⟩

/-- Two objects that every one of the fields takes the same values of. -/
def TakesAlike (fields : List (Accessor V)) (object later : V) : Prop :=
  ∀ field ∈ fields, ∀ content, (field.set later content).2.isOk = (field.set object content).2.isOk

/-- A copy does not change what the fields take. -/
theorem Transfers.takesAlike (h : Transfers origin target fields writes after)
    (hLawful : Lawful all) (hAll : fields ⊆ all) : TakesAlike all target after := by
  induction h with
  | done => exact fun _ _ _ => rfl
  | unread _ _ ih => exact ih (List.subset_of_cons_subset hAll)
  | refused _ _ _ ih => exact ih (List.subset_of_cons_subset hAll)
  | written _ hSet _ ih =>
    intro field hField content
    have hRest := ih (List.subset_of_cons_subset hAll) field hField content
    exact hRest.trans (hLawful.takes_set (hAll List.mem_cons_self) hField hSet content)

/-- **The next copy makes the same writes**, to the target or to any object of which the fields take
the same values. -/
theorem Transfers.repeat (h : Transfers origin target fields writes after) (hLawful : Lawful all)
    (hAtomic : WritesAtomically all) (hAll : fields ⊆ all) (hAlike : TakesAlike all target later) :
    ∃ again, Transfers origin later fields writes again := by
  -- the steps are the same, and end wherever the other object does
  induction h generalizing later with
  | done => exact ⟨later, .done⟩
  | unread hGet _ ih =>
    obtain ⟨again, hAgain⟩ := ih (List.subset_of_cons_subset hAll) hAlike
    exact ⟨again, .unread hGet hAgain⟩
  | @refused _ _ first _ _ value _ hGet hSet _ ih =>
    -- what refused the value refuses it again, and is left alone again
    have hFirst : first ∈ all := hAll List.mem_cons_self
    have hSame := hAlike first hFirst value
    obtain ⟨again, hAgain⟩ := ih (List.subset_of_cons_subset hAll) hAlike
    rcases hLater : first.set later value with ⟨next, cause | ⟨⟩⟩
    · obtain rfl : next = later := hAtomic.eq_of_fails hFirst hLater
      exact ⟨again, .refused hGet hLater hAgain⟩
    · rw [hLater, hSet] at hSame
      cases hSame
  | @written _ next _ first _ _ value hGet hSet _ ih =>
    have hFirst : first ∈ all := hAll List.mem_cons_self
    have hSame := hAlike first hFirst value
    rcases hLater : first.set later value with ⟨next', cause | ⟨⟩⟩
    · rw [hLater, hSet] at hSame
      cases hSame
    · -- both writes leave what the fields take as it was
      have hAfter : TakesAlike all next next' := by
        intro field hField content
        rw [hLawful.takes_set hFirst hField hLater, hLawful.takes_set hFirst hField hSet]
        exact hAlike field hField content
      obtain ⟨again, hAgain⟩ := ih (List.subset_of_cons_subset hAll) hAfter
      exact ⟨again, .written hGet hLater hAgain⟩

/-! ## Writing what is there -/

/-- Objects in which a field has been written, and nothing but fields since. -/
inductive Written (fields : List (Accessor V)) (field : Accessor V) : V → Prop where
  | here {object after : V} {value : Option V} (hSet : field.set object value = (after, .ok ())) :
      Written fields field after
  | since {object after : V} {other : Accessor V} {value : Option V} (hOther : other ∈ fields)
      (hSet : other.set object value = (after, .ok ())) (hBefore : Written fields field object) :
      Written fields field after

/-- To put into a field what one gets from it, there where it has been written, changes nothing: it
keeps nothing beside what it reads, such as a count of its writes. -/
def WritesBack (fields : List (Accessor V)) : Prop :=
  ∀ {field}, field ∈ fields → ∀ {object value after}, Written fields field object →
    field.get object = .ok value → field.set object value = (after, .ok ()) → after = object

/-- A field that a copy writes has been written when the copy ends. -/
theorem Transfers.written_of (h : Transfers origin target fields writes after) (hAll : fields ⊆ all) :
    (Written all field target ∨ ∃ value, (field, value) ∈ writes) → Written all field after := by
  -- once written, a field has been written until the end
  induction h with
  | done =>
    rintro (hBefore | ⟨value, hWrite⟩)
    · exact hBefore
    · cases hWrite
  | unread _ _ ih => exact ih (List.subset_of_cons_subset hAll)
  | refused _ _ _ ih => exact ih (List.subset_of_cons_subset hAll)
  | written _ hSet _ ih =>
    intro hBefore
    refine ih (List.subset_of_cons_subset hAll) ?_
    rcases hBefore with hBefore | ⟨value, hWrite⟩
    · exact .inl (.since (hAll List.mem_cons_self) hSet hBefore)
    · rcases List.mem_cons.mp hWrite with hFirst | hLater
      · cases hFirst
        exact .inl (.here hSet)
      · exact .inr ⟨value, hLater⟩

/-- A copy of what is there already changes nothing. -/
theorem Transfers.eq_of_held (h : Transfers origin target fields writes after)
    (hBack : WritesBack all) (hAll : fields ⊆ all)
    (hHeld : ∀ field value, (field, value) ∈ writes →
      Written all field target ∧ field.get target = .ok value) : after = target := by
  -- every write puts back what is there
  induction h with
  | done => rfl
  | unread _ _ ih => exact ih (List.subset_of_cons_subset hAll) hHeld
  | refused _ _ _ ih => exact ih (List.subset_of_cons_subset hAll) hHeld
  | written _ hSet _ ih =>
    obtain ⟨hWritten, hGet⟩ := hHeld _ _ List.mem_cons_self
    obtain rfl := hBack (hAll List.mem_cons_self) hWritten hGet hSet
    exact ih (List.subset_of_cons_subset hAll) fun field value hWrite =>
      hHeld field value (.tail _ hWrite)

end Copying

/-! ## The main result -/

namespace Inquiry

/-- Notes do not change the answer. -/
theorem run_notes {α : Type} (events : List Event) (answer : α) (cache : Cache V) :
    ((notes events (.done answer)).run source cache).1 = .ok answer := by
  unfold notes
  -- notes are reported one after the other, and none of them is an answer
  induction events generalizing cache with
  | nil => rfl
  | cons event events ih =>
    rw [List.foldr_cons, run]
    exact ih _

/-- The answer to a copy is the count of its writes, and the target that these leave. -/
theorem run_copyFields {origin target after : V} {writes : List (Accessor V × Option V)}
    (h : Copying.Transfers origin target (source.copiedFields type) writes after)
    (cache : Cache V) :
    ((copyFields type origin target).run source cache).1 = .ok (writes.length, after) := by
  rw [← Source.map_chainFields] at h
  unfold copyFields
  split
  · -- the root of all classes has no fields
    rename_i hRoot
    have hNone : source.chainFields type = [] := by
      unfold Source.chainFields
      rw [Source.superclassChain_of_stop (.inl hRoot)]
      rfl
    rw [hNone] at h
    cases h
    rfl
  · obtain ⟨hCount, hTarget⟩ := Copying.foldl_copyField ⟨0, target, []⟩ h
    rw [run, run_notes]
    show Except.ok (_, _) = _
    unfold Source.copyFields
    rw [hCount, hTarget, Nat.zero_add]

end Inquiry

namespace Source

/--
**A copy copies what it counts**, through whatever caches, and whichever fields fail. It goes through
the fields of a chain of classes that has an end even where superclasses form a circle, and answers
with the count of its writes and with what just these writes, one after the other, make of the target;
what they leave alone is as it was. If bodies are lawful, every field that was written reads the same
from the target as from the origin, and the next copy makes the same writes, which nobody can tell by
the fields; and they change nothing at all, unless a body keeps something beside what it reads.
-/
theorem copies_what_is_counted (source : Source V) (type : TypeName) (origin target : V)
    (c₁ c₂ : Cache V) (hAtomic : Copying.WritesAtomically (source.copiedFields type)) :
    (∃ classes, source.Lineage [] (some type) classes ∧ (classes.map Prod.fst).Nodup ∧
      source.copiedFields type = fieldsOf classes) ∧
    ∃ writes after, Copying.Transfers origin target (source.copiedFields type) writes after ∧
      ((Inquiry.copyFields type origin target).run source c₁).1 = .ok (writes.length, after) ∧
      (∀ (Seen : Type) (view : V → Seen),
        (∀ field value, (field, value) ∈ writes →
          ∀ object next, field.set object value = (next, .ok ()) → view next = view object) →
        view after = view target) ∧
      (Copying.Lawful (source.copiedFields type) →
        (∀ field value, (field, value) ∈ writes →
          field.get origin = .ok value ∧ field.get after = .ok value) ∧
        ∃ again, Copying.Transfers origin after (source.copiedFields type) writes again ∧
          ((Inquiry.copyFields type origin after).run source c₂).1 = .ok (writes.length, again) ∧
          (∀ field ∈ source.copiedFields type, field.get again = field.get after) ∧
          (Copying.WritesBack (source.copiedFields type) → again = after)) := by
  have hChain := source.lineage_superclassChain [] type
  have hAll : source.copiedFields type ⊆ source.copiedFields type := List.Subset.refl _
  obtain ⟨writes, after, hCopy⟩ := Copying.exists_transfers origin target hAtomic
  refine ⟨⟨_, hChain, hChain.nodup.1, rfl⟩, writes, after, hCopy,
    Inquiry.run_copyFields hCopy c₁, fun Seen view => hCopy.view_eq, fun hLawful => ?_⟩
  -- what was written holds the value that was read
  have hHeld : ∀ field value, (field, value) ∈ writes →
      field.get origin = .ok value ∧ field.get after = .ok value := by
    intro field value hWrite
    obtain ⟨hField, hGet⟩ := hCopy.mem_of_mem hWrite
    exact ⟨hGet, (hCopy.get_eq hLawful hAll hField (.inr ⟨value, hWrite⟩)).trans hGet⟩
  -- the target takes what it took before, so the next copy goes the same way
  obtain ⟨again, hAgain⟩ :=
    hCopy.repeat hLawful hAtomic hAll (hCopy.takesAlike hLawful hAll)
  refine ⟨hHeld, again, hAgain, Inquiry.run_copyFields hAgain c₂, ?_, ?_⟩
  · -- a field that was written, or one that was not
    intro field hField
    by_cases hWritten : ∃ value, (field, value) ∈ writes
    · obtain ⟨value, hWrite⟩ := hWritten
      have hSame := hAgain.get_eq hLawful hAll hField (.inr ⟨value, hWrite⟩)
      exact hSame.trans (hCopy.get_eq hLawful hAll hField (.inr ⟨value, hWrite⟩)).symm
    · -- no write reaches it
      refine hAgain.view_eq fun other content hWrite object next hSet => ?_
      have hOther : field ≠ other := fun hEq => hWritten ⟨content, hEq ▸ hWrite⟩
      exact hLawful.get_set (hAgain.mem_of_mem hWrite).1 hField hOther hSet
  · -- with bodies that keep nothing beside, the same writes change nothing
    intro hBack
    refine hAgain.eq_of_held hBack hAll fun field value hWrite => ⟨?_, (hHeld _ _ hWrite).2⟩
    exact hCopy.written_of hAll (.inr ⟨value, hWrite⟩)

end Source

/-! ## Copies of records -/

namespace Record

open Copying

variable {record : Record} {field : RecordField} {fields : List (Accessor Value)}
  {accessor : Accessor Value}

/-- An accessor of a field of a record, as some type describes it, or one without bodies. -/
def Backs (record : Record) (type : TypeName) (accessor : Accessor Value) : Prop :=
  (accessor.reader? = none ∧ accessor.writer? = none) ∨
    ∃ field ∈ record.fields, accessor = .ofField type (record.describeField field)

/-- A field that is not read-only is written as its record says. -/
theorem set_ofField (hWritable : field.isReadOnly = false) :
    (Accessor.ofField type (record.describeField field)).set = record.writeField field := by
  funext object value
  simp [Accessor.set, Accessor.ofField, Accessor.writer?, describeField, hWritable]

/-- A read-only field is not written at all. -/
theorem set_ofField_readOnly (hReadOnly : field.isReadOnly = true) (object : Value)
    (value : Option Value) :
    (Accessor.ofField type (record.describeField field)).set object value =
      (object, .error (Accessor.ofField type (record.describeField field)).unboundError) := by
  simp [Accessor.set, Accessor.ofField, Accessor.writer?, describeField, hReadOnly]

/-- What is written goes to a field of the record. -/
theorem Backs.of_set {object after : Value} {value : Option Value} (h : record.Backs type accessor)
    (hSet : accessor.set object value = (after, .ok ())) :
    ∃ field ∈ record.fields, accessor = .ofField type (record.describeField field) ∧
      accessor.get = record.readField field ∧ accessor.set = record.writeField field := by
  rcases h with ⟨-, hNone⟩ | ⟨field, hField, rfl⟩
  · unfold Accessor.set at hSet
    rw [hNone] at hSet
    cases hSet
  · refine ⟨field, hField, rfl, rfl, ?_⟩
    cases hReadOnly : field.isReadOnly with
    | true =>
      rw [set_ofField_readOnly hReadOnly] at hSet
      cases hSet
    | false => exact set_ofField hReadOnly

/-- Whether a field takes a value depends on whether the object is an instance, and on the value. -/
theorem isOk_writeField (field : RecordField) (object : Value) (value : Option Value) :
    (record.writeField field object value).2.isOk =
      ((record.instanceFields? object).isSome && (takeField field value).isOk) := by
  unfold writeField
  cases record.instanceFields? object with
  | none => rfl
  | some held => cases takeField field value <;> rfl

/-- Whether a field of a record takes a value is for the value to say, if it is put into an instance
of the record. -/
theorem Backs.takes_eq {object later : Value} (h : record.Backs type accessor)
    (hSame : (record.instanceFields? later).isSome = (record.instanceFields? object).isSome)
    (content : Option Value) :
    (accessor.set later content).2.isOk = (accessor.set object content).2.isOk := by
  -- a field without a body never takes a value, nor does a read-only one
  rcases h with ⟨-, hNone⟩ | ⟨field, -, rfl⟩
  · unfold Accessor.set
    rw [hNone]
  · cases hReadOnly : field.isReadOnly with
    | true => rw [set_ofField_readOnly hReadOnly, set_ofField_readOnly hReadOnly]
    | false =>
      rw [set_ofField hReadOnly, isOk_writeField, isOk_writeField, hSame]

/-- **Fields of a record are copied for good.** -/
theorem copying_lawful (hRecord : record.Distinct)
    (hFields : ∀ accessor ∈ fields, record.Backs type accessor) :
    WritesAtomically fields ∧ Lawful fields ∧ WritesBack fields := by
  refine ⟨?_, ⟨?_, ?_, ?_⟩, ?_⟩
  · -- a body that fails leaves the instance alone
    intro accessor hMem body hBody
    rcases hFields accessor hMem with ⟨-, hNone⟩ | ⟨field, -, rfl⟩
    · rw [hBody] at hNone
      cases hNone
    · have hWriter : (if field.isReadOnly then none else some (record.writeField field)) =
          some body := hBody
      split at hWriter
      · cases hWriter
      · cases hWriter
        exact writeField_atomic record field
  · -- a field is read as it was written
    intro accessor hMem object value after hSet
    obtain ⟨field, hField, -, hGet, hWrite⟩ := (hFields accessor hMem).of_set hSet
    exact (field_isLens hRecord hField hGet hWrite).put_get hSet
  · -- another field is another slot of the record
    intro accessor other hMem hOther hNe object value after hSet
    obtain ⟨field, hField, rfl, -, hWrite⟩ := (hFields accessor hMem).of_set hSet
    rcases hFields other hOther with ⟨hNone, -⟩ | ⟨field', hField', rfl⟩
    · unfold Accessor.get
      rw [hNone]
    · have hIdent : field'.ident ≠ field.ident := by
        intro hSame
        obtain rfl := hRecord.eq_of_ident_eq hField' hField hSame
        exact hNe rfl
      rw [hWrite] at hSet
      exact readField_writeField hIdent hSet
  · -- an instance stays an instance
    intro accessor other hMem hOther object value after hSet content
    obtain ⟨field, -, -, -, hWrite⟩ := (hFields accessor hMem).of_set hSet
    rw [hWrite] at hSet
    obtain ⟨held, hInstance, -, rfl⟩ := writeField_eq_ok_iff.mp hSet
    refine (hFields other hOther).takes_eq ?_ content
    rw [instanceFields?_replaceNamed hInstance, hInstance]
    rfl
  · -- a field that is put back as it was is the same
    intro accessor hMem object value after _ hGet hSet
    obtain ⟨field, hField, -, hRead, hWrite⟩ := (hFields accessor hMem).of_set hSet
    exact (field_isLens hRecord hField hRead hWrite).get_put hGet hSet

end Record

namespace Sample

def delivery : TypeName := ⟨"Delivery"⟩

/-- A delivery is a parcel with a limit that never changes and with a remark that has no bodies. -/
def deliveryDescription : Description Value :=
  { Description.plain delivery .concrete with
    superclass? := some (.named parcel.type)
    fields := [
      { field delivery "LIMIT" ⟨"u32"⟩ true with isStatic := true, isFinal := true },
      { field delivery "remark" ⟨"String"⟩ false with reader? := none }] }

/-- A parcel that extends deliveries in turn. -/
def deliveredDescription : Description Value :=
  { parcel.describe (parcel.initial []) with superclass? := some (.named delivery) }

/-- Deliveries and parcels, each of which extends the other. -/
def deliveries : Source Value := (Catalog.mk [deliveryDescription, deliveredDescription]).toSource

/-- The fields that are copied from a delivery are those of parcels, and a remark without bodies. -/
theorem backs_of_mem_copiedFields {accessor : Accessor Value}
    (h : accessor ∈ deliveries.copiedFields delivery) : parcel.Backs parcel.type accessor := by
  have hChain : deliveries.superclassChain [] delivery =
      [(delivery, deliveryDescription), (parcel.type, deliveredDescription)] := by cbv
  unfold Source.copiedFields Source.fieldsOf at h
  rw [hChain, List.flatMap_cons, List.flatMap_cons, List.mem_append, List.mem_append] at h
  rcases h with hRemark | hParcel | hNone
  · -- the limit is constant, which leaves the remark
    obtain rfl := List.mem_singleton.mp hRemark
    exact .inl ⟨rfl, rfl⟩
  · -- what parcels describe are the fields of the record
    obtain ⟨declared, hDeclared, rfl⟩ := List.mem_map.mp hParcel
    obtain ⟨field, hField, rfl⟩ := List.mem_map.mp (List.mem_of_mem_filter hDeclared)
    exact .inr ⟨field, Record.mem_fields_of_described hField, rfl⟩
  · cases hNone

end Sample

namespace Source

/-- Of a parcel that is copied as a delivery, the address that it goes to and the note are written; the
one that it comes from is read-only, and the remark is not even read. Copied once more, it stays as it
is. -/
theorem copies_what_is_counted_delivery :
    let fresh : Cache Value := .create .standard
    let origin := Sample.parcelTo (some (Sample.addressIn "Rome"))
    let fields := Sample.deliveries.copiedFields Sample.delivery
    Copying.WritesAtomically fields ∧ Copying.Lawful fields ∧ Copying.WritesBack fields ∧
      ∃ writes, Copying.Transfers origin Sample.blankParcel fields writes origin ∧
        writes.length = 2 ∧
        (∀ field value, (field, value) ∈ writes → field.get origin = .ok value) ∧
        ((Inquiry.copyFields Sample.delivery origin origin).run Sample.deliveries fresh).1 =
          .ok (2, origin) := by
  intro fresh origin fields
  -- the fields of a parcel have names of their own, so the laws hold
  have hParcel : Sample.parcel.Distinct := ⟨by decide, by decide⟩
  obtain ⟨hAtomic, hLawful, hBack⟩ : Copying.WritesAtomically fields ∧ Copying.Lawful fields ∧
      Copying.WritesBack fields :=
    Record.copying_lawful hParcel fun accessor => Sample.backs_of_mem_copiedFields
  refine ⟨hAtomic, hLawful, hBack, ?_⟩
  obtain ⟨-, writes, after, hCopy, hAnswer, -, hLaws⟩ :=
    copies_what_is_counted Sample.deliveries Sample.delivery origin Sample.blankParcel fresh fresh
      hAtomic
  -- what the copy comes to
  have hRun : ((Inquiry.copyFields Sample.delivery origin Sample.blankParcel).run Sample.deliveries
      fresh).1 = .ok (2, origin) := by cbv
  rw [hRun] at hAnswer
  obtain ⟨hCount, rfl⟩ : 2 = writes.length ∧ origin = after :=
    Prod.mk.inj (Except.ok.inj hAnswer)
  obtain ⟨hHeld, again, -, hAgain, -, hSame⟩ := hLaws hLawful
  refine ⟨writes, hCopy, hCount.symm, fun field value hWrite => (hHeld field value hWrite).1, ?_⟩
  rw [hAgain, hSame hBack, hCount]

end Source

/-! ## Bodies that keep more than they read -/

namespace Sample

def ledger : TypeName := ⟨"Ledger"⟩

/-- A ledger: its balance, and how often that has been written. -/
def ledgerOf (balance? : Option Value) (writes : Int) : Value :=
  .slots [("balance", balance?), ("writes", some (.number "u32" writes))]

/-- Reads the balance of a ledger. -/
def balanceReader : Reader Value
  | .slots ((_, balance?) :: _) => .ok balance?
  | _ => .error (.instanceMismatch ledger)

/-- Writes the balance of a ledger, and counts the write. -/
def countingWriter : Writer Value
  | .slots [(balance, _), (tally, some (.number type writes))], value =>
    (.slots [(balance, value), (tally, some (.number type (writes + 1)))], .ok ())
  | object, _ => (object, .error (.instanceMismatch ledger))

def balanceField : Field Value :=
  { name := "balance", type := .named ⟨"i64"⟩, isStatic := false, isFinal := false
    reader? := some balanceReader, writer? := some countingWriter }

def labelField : Field Value := field .object "label" ⟨"String"⟩ true

/-- Ledgers, and a label for whatever is an object. -/
def ledgers : Source Value :=
  (Catalog.mk
    [{ Description.plain ledger .concrete with fields := [balanceField] },
      { Description.plain .object .concrete with fields := [labelField] }]).toSource

/-- The counting writer writes whatever has the form of a ledger, and nothing else. -/
theorem countingWriter_eq_ok_iff {object after : Value} {value : Option Value} :
    countingWriter object value = (after, .ok ()) ↔ ∃ balance held tally type writes,
      object = .slots [(balance, held), (tally, some (.number type writes))] ∧
        after = .slots [(balance, value), (tally, some (.number type (writes + 1)))] := by
  constructor
  · intro h
    unfold countingWriter at h
    split at h
    · cases h
      exact ⟨_, _, _, _, _, rfl, rfl⟩
    · cases h
  · rintro ⟨balance, held, tally, type, writes, rfl, rfl⟩
    rfl

/-- A counting writer that fails changes nothing. -/
theorem countingWriter_atomic : Writer.Atomic countingWriter := by
  intro object value after cause h
  unfold countingWriter at h
  split at h
  · cases h
  · cases h
    rfl

/-- Ledgers keep the laws under which a copy holds what its origin does: how often the balance has
been written is read through no field. -/
theorem lawful_ledgers : Copying.Lawful [Accessor.ofField ledger balanceField] where
  put_get := by
    intro accessor hMem object value after hSet
    obtain rfl := List.mem_singleton.mp hMem
    obtain ⟨_, _, _, _, _, -, rfl⟩ := countingWriter_eq_ok_iff.mp hSet
    rfl
  get_set := by
    intro accessor other hMem hOther hNe
    obtain rfl := List.mem_singleton.mp hMem
    exact absurd (List.mem_singleton.mp hOther) hNe
  takes_set := by
    intro accessor other hMem hOther object value after hSet content
    obtain rfl := List.mem_singleton.mp hMem
    obtain rfl := List.mem_singleton.mp hOther
    -- what has been written has the form of a ledger as before
    obtain ⟨_, _, _, _, _, rfl, rfl⟩ := countingWriter_eq_ok_iff.mp hSet
    rfl

end Sample

namespace Source

/-- **A copy may go beyond what it reads, and stops before the root of all classes.** Of a described
root nothing is copied, though its label can be read from the one object and written to the other. And
of a ledger the balance is copied by a body that also counts its writes: all laws of lawful bodies
hold, and the target is another one after the second copy than after the first. -/
theorem copied_again_differently :
    let fresh : Cache Value := .create .standard
    let origin := Sample.ledgerOf (some (.number "i64" 7)) 0
    (∃ description, Sample.ledgers.describe .object = some description ∧
      Sample.labelField ∈ description.fields ∧ Sample.labelField.isConstant = false ∧
      ((Accessor.ofField .object Sample.labelField).get origin).isOk = true ∧
      (∀ value, ((Accessor.ofField .object Sample.labelField).set (.slots []) value).2.isOk = true) ∧
      ((Inquiry.copyFields .object origin (.slots [])).run Sample.ledgers fresh).1 =
        .ok (0, .slots [])) ∧
    Copying.WritesAtomically (Sample.ledgers.copiedFields Sample.ledger) ∧
    Copying.Lawful (Sample.ledgers.copiedFields Sample.ledger) ∧
    ∃ after again,
      ((Inquiry.copyFields Sample.ledger origin (Sample.ledgerOf none 0)).run Sample.ledgers
        fresh).1 = .ok (1, after) ∧
      ((Inquiry.copyFields Sample.ledger origin after).run Sample.ledgers fresh).1 =
        .ok (1, again) ∧
      again ≠ after := by
  intro fresh origin
  have hFields : Sample.ledgers.copiedFields Sample.ledger =
      [Accessor.ofField Sample.ledger Sample.balanceField] := by cbv
  refine ⟨⟨_, rfl, List.mem_cons_self, rfl, rfl, fun _ => rfl, by cbv⟩, ?_, ?_, ?_⟩
  · rw [hFields]
    intro field hField body hBody
    obtain rfl := List.mem_singleton.mp hField
    cases hBody
    exact Sample.countingWriter_atomic
  · rw [hFields]
    exact Sample.lawful_ledgers
  · -- the balance is the same after both copies, and the count is not
    refine ⟨Sample.ledgerOf (some (.number "i64" 7)) 1,
      Sample.ledgerOf (some (.number "i64" 7)) 2, by cbv, by cbv, ?_⟩
    intro hSame
    simp [Sample.ledgerOf] at hSame

end Source

end Introspect
