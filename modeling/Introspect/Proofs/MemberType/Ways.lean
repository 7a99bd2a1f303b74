import Introspect.Proofs.Hierarchy
import Introspect.Proofs.MemberType.Ascents

/-!
# Ways up

References that follow each other are a way up from one type to another, however long it is and
however often it comes back to a type. The search for the bindings of a declaring type follows up to
`referenceLimit` references, so it finds a way if there is one that is not longer. If there is only
one, it finds that.

* `Source.OnlyWay` — the one way up that a search can find.

Main results:

* `exists_seekAscents`: a search finds some way if there is one that is not too long.
* `OnlyWay.bindingsBetween_eq`: it finds the only way.
* `onlyWay_parts`: if there is one way at all, its parts are the only ways as well.
-/

namespace Introspect.Source

variable {V : Type} {source : Source V} {sub super goal type : TypeName} {path : List Ascent}

/-! ## Taking ways apart and together -/

/-- A way up may go on where another one ends. -/
theorem Ascends.append {lower upper : List Ascent} (hLower : source.Ascends sub lower type)
    (hUpper : source.Ascends type upper goal) : source.Ascends sub (lower ++ upper) goal := by
  induction hLower with
  | here type => exact hUpper
  | step hSub hReference hRaw _ ih => exact .step hSub hReference hRaw (ih hUpper)

/-- A way up from a described type is empty, or it begins with one of the type's references. -/
theorem Ascends.cases_of_describe {description : Description V}
    (hSub : source.describe sub = some description) (h : source.Ascends sub path goal) :
    path = [] ∧ sub = goal ∨
      ∃ reference ∈ description.supertypes, ∃ super rest, reference.raw? = some super ∧
        path = ⟨sub, reference, super⟩ :: rest ∧ source.Ascends super rest goal := by
  cases h with
  | here type => exact .inl ⟨rfl, rfl⟩
  | step hOther hReference hRaw hRest =>
    rw [hSub] at hOther
    cases hOther
    exact .inr ⟨_, hReference, _, _, hRaw, rfl, hRest⟩

/-- From a type with one reference, all ways to another type begin with it. -/
theorem Ascends.of_sole {description : Description V} {reference : TypeExpr} (super : TypeName)
    (hSub : source.describe sub = some description) (hSole : description.supertypes = [reference])
    (hRaw : reference.raw? = some super) (hOther : sub ≠ goal) (h : source.Ascends sub path goal) :
    ∃ rest, path = ⟨sub, reference, super⟩ :: rest ∧ source.Ascends super rest goal := by
  rcases h.cases_of_describe hSub with ⟨-, hSame⟩ |
    ⟨other, hMember, type, rest, hType, hPath, hRest⟩
  · -- the way is not empty, since it leads to another type
    exact absurd hSame hOther
  · rw [hSole, List.mem_singleton] at hMember
    subst hMember
    rw [hRaw] at hType
    cases hType
    exact ⟨rest, hPath, hRest⟩

/-- From a type without references there is no way up. -/
theorem Ascends.of_none {description : Description V}
    (hSub : source.describe sub = some description)
    (hNone : description.supertypes = []) (h : source.Ascends sub path goal) : path = [] := by
  rcases h.cases_of_describe hSub with ⟨hPath, -⟩ | ⟨other, hMember, -⟩
  · exact hPath
  · rw [hNone] at hMember
    cases hMember

/-- A rank that falls by at most one with every reference bounds the length of a way up. -/
theorem Ascends.rank_le {rank : TypeName → Nat}
    (hRank : ∀ type other, source.Extends type other → rank type ≤ rank other + 1)
    (h : source.Ascends sub path goal) : rank sub ≤ path.length + rank goal := by
  -- the rank falls with each reference in turn
  induction h with
  | here type => simp
  | @step sub super goal description reference ascents hSub hReference hRaw _ ih =>
    have hStep : rank sub ≤ rank super + 1 :=
      hRank sub super ⟨description, hSub, List.mem_filterMap.mpr ⟨reference, hReference, hRaw⟩⟩
    rw [List.length_cons]
    omega

/-! ## The way that is found -/

/-- A search follows no more references than it may. -/
theorem length_le_of_seekAscents {declaring : TypeName} :
    ∀ {left : Nat} {current : TypeName} {ascents : List Ascent},
      source.seekAscents declaring left current = some ascents → ascents.length ≤ left
  | 0, current, ascents, h => by
    rw [seekAscents] at h
    split at h
    · cases h
      exact Nat.le_refl 0
    · cases h
  | left + 1, current, ascents, h => by
    rw [seekAscents] at h
    split at h
    · cases h
      exact Nat.zero_le _
    · cases hCurrent : source.describe current with
      | none =>
        rw [hCurrent] at h
        cases h
      | some description =>
        rw [hCurrent] at h
        -- the first reference is one of them, and the rest is shorter
        obtain ⟨reference, -, hFound⟩ := List.exists_of_findSome?_eq_some h
        cases hRaw : reference.raw? with
        | none =>
          simp only [hRaw] at hFound
          cases hFound
        | some super =>
          simp only [hRaw, Option.map_eq_some_iff] at hFound
          obtain ⟨rest, hRest, rfl⟩ := hFound
          exact Nat.succ_le_succ (length_le_of_seekAscents hRest)

/-- A search finds some way if there is one that is not too long. -/
theorem exists_seekAscents (hPath : source.Ascends sub path goal) :
    ∀ {left : Nat}, path.length ≤ left →
      ∃ found, source.seekAscents goal left sub = some found := by
  -- along the way, the search having at least as many references left
  induction hPath with
  | here type =>
    intro left _
    cases left with
    | zero => exact ⟨[], by rw [seekAscents, if_pos rfl]⟩
    | succ left => exact ⟨[], by rw [seekAscents, if_pos rfl]⟩
  | @step sub super goal description reference ascents hSub hReference hRaw _ ih =>
    intro left hLength
    obtain ⟨left, rfl⟩ : ∃ rest, left = rest + 1 :=
      Nat.exists_eq_succ_of_ne_zero (Nat.ne_of_gt (Nat.lt_of_lt_of_le (Nat.succ_pos _) hLength))
    obtain ⟨found, hFound⟩ := ih (Nat.le_of_succ_le_succ hLength)
    rw [seekAscents]
    by_cases hSame : sub = goal
    · exact ⟨[], by rw [if_pos hSame]⟩
    · -- an earlier reference may lead there as well, but this one does at the latest
      rw [if_neg hSame, hSub]
      refine Option.isSome_iff_exists.mp (List.findSome?_isSome_iff.mpr ⟨reference, hReference, ?_⟩)
      simp [hRaw, hFound]

/-- The one way up from a type to another that a search can find. -/
structure OnlyWay (source : Source V) (sub : TypeName) (path : List Ascent) (super : TypeName) :
    Prop where
  leads : source.Ascends sub path super
  short : path.length ≤ referenceLimit
  sole : ∀ {other}, source.Ascends sub other super → other.length ≤ referenceLimit → other = path

/-- **The search finds the only way.** -/
theorem OnlyWay.bindingsBetween_eq (h : source.OnlyWay sub path super) :
    source.bindingsBetween sub super = some (source.bindingsAlong .empty path) := by
  obtain ⟨found, hFound⟩ := exists_seekAscents h.leads h.short
  -- what is found is a way that is short enough, so it is the only one
  obtain rfl := h.sole (ascends_of_seekAscents hFound) (length_le_of_seekAscents hFound)
  unfold bindingsBetween
  rw [seekBindings_eq, hFound]
  rfl

/-- Where one way leads up at all, however long others might be, its parts are the only ways too. -/
theorem onlyWay_parts {lower upper : List Ascent} (hLower : source.Ascends sub lower type)
    (hUpper : source.Ascends type upper goal)
    (hShort : (lower ++ upper).length ≤ referenceLimit)
    (hSole : ∀ other, source.Ascends sub other goal → other = lower ++ upper) :
    source.OnlyWay sub lower type ∧ source.OnlyWay type upper goal ∧
      source.OnlyWay sub (lower ++ upper) goal := by
  rw [List.length_append] at hShort
  refine ⟨⟨hLower, by omega, fun hOther _ => ?_⟩, ⟨hUpper, by omega, fun hOther _ => ?_⟩,
    ⟨hLower.append hUpper, by rw [List.length_append]; omega, fun hOther _ => hSole _ hOther⟩⟩
  · -- another way to the middle goes on to the goal
    exact List.append_cancel_right (hSole _ (hOther.append hUpper))
  · -- another way from the middle begins where the first part ends
    exact List.append_cancel_left (hSole _ (hLower.append hOther))

end Introspect.Source
