import Introspect.Proofs.Catalog.Closure
import Introspect.Record.Stock
import Mathlib

/-!
# Registration in any order

Registration never takes anything back and never replaces anything, so what one registration adds
the next one finds. Which members several of them add together is then a matter of which types are
registered, not of when.

* `Catalog.Grows` — a catalog with more descriptions, of types that it lacked, at its end.
* `Catalog.Same` — catalogs that tell the same of every type and hold the same, in whatever order.
* `Catalog.Settled` — a type that has nothing left to register, and `Catalog.Done` — a submission
  that has nothing left to do.

Registering again changes nothing (`Catalog.registerAll_again`), two registrations may change places
(`Catalog.get?_submit_swap`), and so **`Catalog.registration_closes`**.
-/

namespace Introspect

variable {V : Type} {family : Family V} {catalog before middle after other : Catalog V}
  {member : Registrable V} {types pending more : List TypeName} {type : TypeName}
  {description : Description V} {added later : List (Description V)}

namespace Catalog

/-! ## Registering again -/

/-- A type that is described, or that no member describes, has nothing left to register. -/
def Settled (family : Family V) (catalog : Catalog V) (type : TypeName) : Prop :=
  catalog.contains type = true ∨ family.Foreign type

/-- Where every type is settled, registration does nothing. -/
theorem registerAll_of_settled (hSettled : ∀ type ∈ pending, Settled family catalog type) :
    catalog.registerAll family pending = catalog := by
  induction pending with
  -- what is settled first is settled still when the rest is registered
  | nil => exact registerAll_nil
  | cons type rest ih =>
    have hRest := ih fun other hOther => hSettled other (List.mem_cons_of_mem _ hOther)
    rcases hSettled type List.mem_cons_self with hPresent | hForeign
    · rw [registerAll_cons_of_contains hPresent, hRest]
    · rw [registerAll_cons_of_foreign hForeign, hRest]

/-- What was to be registered is settled afterwards. -/
theorem settled_registerAll (hNames : family.Distinct) (hType : type ∈ pending) :
    Settled family (catalog.registerAll family pending) type := by
  by_cases hForeign : family.Foreign type
  · exact .inr hForeign
  · unfold Family.Foreign at hForeign
    push Not at hForeign
    obtain ⟨member, hMember, rfl⟩ := hForeign
    refine .inl ?_
    by_cases hPresent : catalog.contains member.description.type = true
    · exact contains_registerAll hPresent
    · -- a member that was missing is reached, being one of the starts
      have hReaches : family.Reaches catalog pending member :=
        .start hMember (by simpa using hPresent) hType
      have hFound := (get?_registerAll hNames).mpr (.inr ⟨member, hReaches, rfl, rfl⟩)
      rw [contains, hFound, Option.isSome_some]

/-- Registering what was registered changes nothing. -/
theorem registerAll_again (hNames : family.Distinct) (hMore : ∀ type ∈ more, type ∈ pending) :
    (catalog.registerAll family pending).registerAll family more =
      catalog.registerAll family pending :=
  registerAll_of_settled fun type hType => settled_registerAll hNames (hMore type hType)

/-- One registration after another is one of all that they register. -/
theorem foldl_register :
    types.foldl (register family) catalog = catalog.registerAll family types := by
  induction types generalizing catalog with
  | nil => exact registerAll_nil.symm
  -- what is registered first counts as pending before the rest
  | cons type rest ih =>
    rw [List.foldl_cons, ih, register, ← registerAll_append, List.singleton_append]

/-! ## Growth -/

/-- A catalog that holds all that another one holds, and then some of what that one lacks. -/
structure Grows (before after : Catalog V) (added : List (Description V)) : Prop where
  descriptions_eq : after.descriptions = before.descriptions ++ added
  nodup : (added.map Description.type).Nodup
  missing : ∀ description ∈ added, before.contains description.type = false

theorem Grows.refl (catalog : Catalog V) : Grows catalog catalog [] where
  descriptions_eq := (List.append_nil _).symm
  nodup := List.nodup_nil
  missing := fun _ h => absurd h List.not_mem_nil

/-- A catalog grows by a description of a type that it lacks. -/
theorem grows_insert (hMissing : catalog.contains description.type = false) :
    Grows catalog (catalog.insert description) [description] where
  descriptions_eq := by
    rw [insert, if_neg (by simp [hMissing])]
  nodup := List.nodup_singleton _
  missing := by
    intro other hOther
    rw [List.mem_singleton.mp hOther]
    exact hMissing

/-- What is told of a type is what was told of it, and otherwise what was added. -/
theorem Grows.get?_eq (h : Grows before after added) (type : TypeName) :
    after.get? type = (before.get? type).or (added.find? (·.type == type)) := by
  rw [get?, h.descriptions_eq, List.find?_append]
  rfl

/-- What is added is what is found afterwards and was not found before. -/
theorem Grows.mem_added_iff (h : Grows before after added) :
    description ∈ added ↔ before.get? description.type = none ∧
      after.get? description.type = some description := by
  rw [h.get?_eq]
  constructor
  · -- what is added was missing, and stands there once
    intro hAdded
    have hBefore := contains_eq_false_iff.mp (h.missing description hAdded)
    refine ⟨hBefore, ?_⟩
    rw [hBefore, Option.none_or]
    cases hFind : added.find? (·.type == description.type) with
    | none =>
      have hOther := List.find?_eq_none.mp hFind description hAdded
      simp at hOther
    | some found =>
      have hType : found.type = description.type := by simpa using List.find?_some hFind
      have hFound := List.mem_of_find?_eq_some hFind
      -- two descriptions of one type would be one and the same
      rw [List.inj_on_of_nodup_map h.nodup hFound hAdded hType]
  · -- what is found only afterwards has been added
    rintro ⟨hBefore, hAfter⟩
    rw [hBefore, Option.none_or] at hAfter
    exact List.mem_of_find?_eq_some hAfter

/-- What grows twice grows by what is added first and then. -/
theorem Grows.trans (h : Grows before middle added) (hLater : Grows middle after later) :
    Grows before after (added ++ later) where
  descriptions_eq := by
    rw [hLater.descriptions_eq, h.descriptions_eq, List.append_assoc]
  nodup := by
    rw [List.map_append]
    refine h.nodup.append hLater.nodup fun type hAdded hType => ?_
    obtain ⟨description, hDescription, rfl⟩ := List.mem_map.mp hAdded
    obtain ⟨newer, hNewer, hSame⟩ := List.mem_map.mp hType
    -- what was added first is there when the later ones are added
    have hMissing := contains_eq_false_iff.mp (hLater.missing newer hNewer)
    rw [hSame, (h.mem_added_iff.mp hDescription).2] at hMissing
    cases hMissing
  missing := by
    intro description hDescription
    rcases List.mem_append.mp hDescription with hAdded | hNewer
    · exact h.missing description hAdded
    · -- what is added later was missing all the time
      have hMissing := contains_eq_false_iff.mp (hLater.missing description hNewer)
      rw [h.get?_eq, Option.or_eq_none_iff] at hMissing
      exact contains_eq_false_iff.mpr hMissing.1

/-- Catalogs that grew from the same one and tell the same hold the same. -/
theorem Grows.perm (h : Grows before after added) (hOther : Grows before other later)
    (hGet : ∀ type, after.get? type = other.get? type) :
    after.descriptions.Perm other.descriptions := by
  rw [h.descriptions_eq, hOther.descriptions_eq]
  -- both grew by what is found now and was not found before
  have hAdded : added.Perm later := by
    refine (List.perm_ext_iff_of_nodup (.of_map _ h.nodup) (.of_map _ hOther.nodup)).mpr ?_
    intro description
    rw [h.mem_added_iff, hOther.mem_added_iff, hGet]
  exact hAdded.append_left _

/-- Registration makes a catalog grow. -/
theorem grows_registerAll (family : Family V) (catalog : Catalog V) (pending : List TypeName) :
    ∃ added, Grows catalog (catalog.registerAll family pending) added := by
  -- along the calls, each of which adds one description or none
  fun_induction registerAll family catalog pending with
  | case1 catalog => exact ⟨[], Grows.refl catalog⟩
  | case2 catalog next rest _ ih => exact ih
  | case3 catalog next rest _ _ ih => exact ih
  | case4 catalog next rest hMissing start hFind ih =>
    obtain ⟨-, rfl⟩ := Family.mem_of_find? hFind
    obtain ⟨added, hAdded⟩ := ih
    exact ⟨_, (grows_insert (by simpa using hMissing)).trans hAdded⟩

/-- Catalogs that tell the same of every type and hold the same. -/
structure Same (catalog other : Catalog V) : Prop where
  get?_eq : ∀ type, catalog.get? type = other.get? type
  perm : catalog.descriptions.Perm other.descriptions

/-! ## Registering in another order -/

theorem contains_congr (hGet : ∀ type, catalog.get? type = other.get? type) (type : TypeName) :
    catalog.contains type = other.contains type := by
  rw [contains, contains, hGet]

/-- What is told of a type depends on what was told of it, on which members were missing, and on
which types were registered. -/
theorem get?_registerAll_congr (hNames : family.Distinct)
    (hMissing : ∀ member ∈ family,
      catalog.contains member.description.type = other.contains member.description.type)
    (hTypes : ∀ type, type ∈ pending ↔ type ∈ more) (hGet : catalog.get? type = other.get? type) :
    (catalog.registerAll family pending).get? type =
      (other.registerAll family more).get? type := by
  -- the same members are reached, since the same are missing
  have hReaches : ∀ member, family.Reaches catalog pending member ↔
      family.Reaches other more member := by
    intro member
    constructor
    · intro h
      exact h.mono (fun member hMember hLacks => (hMissing member hMember).symm.trans hLacks)
        fun _ _ _ hType => (hTypes _).mp hType
    · intro h
      exact h.mono (fun member hMember hLacks => (hMissing member hMember).trans hLacks)
        fun _ _ _ hType => (hTypes _).mpr hType
  -- so each description is told by both or by neither
  refine Option.ext fun description => ?_
  rw [get?_registerAll hNames, get?_registerAll hNames, hGet]
  simp only [hReaches]

/-- In whatever order types are registered, the catalog is the same. -/
theorem same_registerAll (hNames : family.Distinct) (hPerm : pending.Perm more) :
    Same (catalog.registerAll family pending) (catalog.registerAll family more) := by
  have hGet : ∀ type, (catalog.registerAll family pending).get? type =
      (catalog.registerAll family more).get? type :=
    fun _ => get?_registerAll_congr hNames (fun _ _ => rfl) (fun _ => hPerm.mem_iff) rfl
  obtain ⟨added, hAdded⟩ := grows_registerAll family catalog pending
  obtain ⟨later, hLater⟩ := grows_registerAll family catalog more
  exact ⟨hGet, hAdded.perm hLater hGet⟩

/-- Nothing new is told of a type that no member describes. -/
theorem get?_registerAll_of_foreign (hNames : family.Distinct) (hForeign : family.Foreign type) :
    (catalog.registerAll family pending).get? type = catalog.get? type := by
  refine Option.ext fun description => ?_
  rw [get?_registerAll hNames, or_iff_left]
  -- no member of that name could have been reached
  rintro ⟨member, hReaches, hType, -⟩
  exact hForeign member hReaches.mem hType

/-- The description that a type has, and for a new type the inserted one. -/
theorem get?_insertIfNew (catalog : Catalog V) (description : Description V) (type : TypeName) :
    (catalog.insertIfNew description).get? type =
      if description.type = type then some ((catalog.get? type).getD description)
      else catalog.get? type := by
  unfold insertIfNew
  split
  · -- there is one already, and it stays
    rename_i hPresent
    split
    · rename_i hSame
      obtain ⟨held, hHeld⟩ := Option.isSome_iff_exists.mp hPresent
      rw [← hSame, hHeld, Option.getD_some]
    · rfl
  · -- there is none, and so the new one counts
    rename_i hMissing
    rw [get?_insert]
    split
    · rename_i hSame
      have hNone : catalog.get? type = none := by
        rw [← hSame]
        exact contains_eq_false_iff.mp (by simpa using hMissing)
      rw [hNone, Option.getD_none]
    · rfl

/-- A description that is no member's can be inserted before a registration or after it. -/
theorem get?_registerAll_insertIfNew (hNames : family.Distinct)
    (hForeign : family.Foreign description.type) :
    ((catalog.insertIfNew description).registerAll family pending).get? type =
      ((catalog.registerAll family pending).insertIfNew description).get? type := by
  by_cases hSame : description.type = type
  · subst hSame
    rw [get?_registerAll_of_foreign hNames hForeign, get?_insertIfNew, get?_insertIfNew,
      get?_registerAll_of_foreign hNames hForeign]
  · -- of any other type the description says nothing
    rw [get?_insertIfNew, if_neg hSame]
    refine get?_registerAll_congr hNames (fun member hMember => ?_) (fun _ => Iff.rfl) ?_
    · -- no member is any less missing
      rw [contains, get?_insertIfNew, if_neg (hForeign member hMember).symm, ← contains]
    · rw [get?_insertIfNew, if_neg hSame]

/-! ## Submissions in another order -/

/-- A submission tells the same of every type wherever the same was told before. -/
theorem get?_submit_congr (hNames : family.Distinct)
    (hGet : ∀ type, catalog.get? type = other.get? type) (submission : Submission)
    (type : TypeName) :
    (submit family catalog submission).get? type = (submit family other submission).get? type := by
  cases submission with
  | flag => rw [submit, submit, get?_insertIfNew, get?_insertIfNew, hGet]
  | type start =>
    exact get?_registerAll_congr hNames (fun _ _ => contains_congr hGet _) (fun _ => Iff.rfl)
      (hGet type)

/-- Two submissions may change places. -/
theorem get?_submit_swap (hNames : family.Distinct) (hFlag : family.Foreign registrationFlag)
    (one another : Submission) (type : TypeName) :
    (submit family (submit family catalog one) another).get? type =
      (submit family (submit family catalog another) one).get? type := by
  -- two types may change places, and so may a type and the flag
  cases one with
  | flag =>
    cases another with
    | flag => rfl
    | type start => exact get?_registerAll_insertIfNew hNames hFlag
  | type start =>
    cases another with
    | flag => exact (get?_registerAll_insertIfNew hNames hFlag).symm
    | type next =>
      show ((catalog.registerAll family [start]).registerAll family [next]).get? type =
        ((catalog.registerAll family [next]).registerAll family [start]).get? type
      rw [← registerAll_append, ← registerAll_append]
      exact get?_registerAll_congr hNames (fun _ _ => rfl)
        (fun _ => (List.Perm.swap next start []).mem_iff) rfl

/-- A run of submissions tells the same of every type wherever the same was told before. -/
theorem get?_foldl_submit_congr (hNames : family.Distinct) (submitted : List Submission)
    (hGet : ∀ type, catalog.get? type = other.get? type) (type : TypeName) :
    (submitted.foldl (submit family) catalog).get? type =
      (submitted.foldl (submit family) other).get? type := by
  induction submitted generalizing catalog other with
  | nil => exact hGet type
  | cons submission rest ih => exact ih (get?_submit_congr hNames hGet submission)

/-- In whatever order submissions are run, they tell the same of every type. -/
theorem get?_foldl_submit_perm (hNames : family.Distinct) (hFlag : family.Foreign registrationFlag)
    (catalog : Catalog V) {submitted others : List Submission} (hPerm : submitted.Perm others)
    (type : TypeName) :
    (submitted.foldl (submit family) catalog).get? type =
      (others.foldl (submit family) catalog).get? type := by
  -- along the permutation, one exchange at a time
  induction hPerm generalizing catalog with
  | nil => rfl
  | cons submission _ ih => exact ih (submit family catalog submission)
  | swap one another rest =>
    exact get?_foldl_submit_congr hNames rest (get?_submit_swap hNames hFlag another one) type
  | trans _ _ ih ihNext => exact (ih catalog).trans (ihNext catalog)

/-- A submission makes a catalog grow. -/
theorem grows_submit (family : Family V) (catalog : Catalog V) (submission : Submission) :
    ∃ added, Grows catalog (submit family catalog submission) added := by
  cases submission with
  | flag =>
    rw [submit, insertIfNew]
    split
    · -- the flag is missing, so its type is added
      exact ⟨[], Grows.refl catalog⟩
    · rename_i hMissing
      exact ⟨_, grows_insert (by simpa using hMissing)⟩
  | type start => exact grows_registerAll family catalog [start]

/-- Submissions make a catalog grow, one after the other. -/
theorem grows_foldl_submit (family : Family V) (catalog : Catalog V)
    (submitted : List Submission) :
    ∃ added, Grows catalog (submitted.foldl (submit family) catalog) added := by
  induction submitted generalizing catalog with
  | nil => exact ⟨[], Grows.refl catalog⟩
  | cons submission rest ih =>
    obtain ⟨added, hAdded⟩ := grows_submit family catalog submission
    obtain ⟨later, hLater⟩ := ih (submit family catalog submission)
    exact ⟨added ++ later, hAdded.trans hLater⟩

/-! ## Submissions run again -/

/-- A submission that has nothing left to do. -/
def Done (family : Family V) (catalog : Catalog V) : Submission → Prop
  | .flag => catalog.contains registrationFlag = true
  | .type type => Settled family catalog type

/-- A submission that has nothing left to do does nothing. -/
theorem submit_of_done {submission : Submission} (hDone : Done family catalog submission) :
    submit family catalog submission = catalog := by
  cases submission with
  | flag => exact if_pos hDone
  | type type =>
    refine registerAll_of_settled fun other hOther => ?_
    rw [List.mem_singleton.mp hOther]
    exact hDone

/-- A submission that has been run has nothing left to do. -/
theorem done_submit (hNames : family.Distinct) (submission : Submission) :
    Done family (submit family catalog submission) submission := by
  cases submission with
  | flag =>
    show (insertIfNew _ _).contains _ = true
    rw [contains, get?_insertIfNew]
    rfl
  | type type => exact settled_registerAll hNames List.mem_cons_self

/-- What is done stays done as the catalog grows. -/
theorem Done.mono {submission : Submission} (hDone : Done family before submission)
    (hGrows : Grows before after added) : Done family after submission := by
  have hKept : ∀ type, before.contains type = true → after.contains type = true := by
    intro type hPresent
    rw [contains] at hPresent ⊢
    rw [hGrows.get?_eq, Option.isSome_or, hPresent, Bool.true_or]
  cases submission with
  | flag => exact hKept _ hDone
  | type type => exact hDone.imp_left (hKept type)

/-- Submissions that have all been run have nothing left to do. -/
theorem done_foldl_submit (hNames : family.Distinct) (submitted : List Submission) :
    ∀ submission ∈ submitted, Done family (submitted.foldl (submit family) catalog) submission := by
  induction submitted generalizing catalog with
  | nil =>
    intro submission h
    exact absurd h List.not_mem_nil
  | cons first rest ih =>
    intro submission hSubmission
    rcases List.mem_cons.mp hSubmission with rfl | hRest
    · -- what the first one has done is kept by those that follow
      obtain ⟨added, hGrows⟩ := grows_foldl_submit family (submit family catalog submission) rest
      exact (done_submit hNames submission).mono hGrows
    · exact ih submission hRest

/-- Submissions that have nothing left to do do nothing. -/
theorem foldl_submit_of_done {submitted : List Submission}
    (hDone : ∀ submission ∈ submitted, Done family catalog submission) :
    submitted.foldl (submit family) catalog = catalog := by
  induction submitted with
  | nil => rfl
  | cons submission rest ih =>
    rw [List.foldl_cons, submit_of_done (hDone _ List.mem_cons_self)]
    exact ih fun other hOther => hDone other (List.mem_cons_of_mem _ hOther)

/-- Where the flag is missing, all submissions are run. -/
theorem autoRegister_of_unflagged {submitted : List Submission}
    (hUnflagged : catalog.contains registrationFlag = false) :
    autoRegister family submitted catalog =
      ([.autoRegistration submitted.length], submitted.foldl (submit family) catalog) := by
  rw [autoRegister, hUnflagged]
  rfl

/-- A second run of all submissions changes nothing. -/
theorem autoRegister_again (hNames : family.Distinct) (submitted : List Submission)
    (catalog : Catalog V) :
    (autoRegister family submitted (autoRegister family submitted catalog).2).2 =
      (autoRegister family submitted catalog).2 := by
  by_cases hFlagged : catalog.contains registrationFlag = true
  · -- the flag was there, so nothing was run at all
    have hFirst : autoRegister family submitted catalog = ([], catalog) := if_pos hFlagged
    rw [hFirst, hFirst]
  · have hUnflagged : catalog.contains registrationFlag = false := by simpa using hFlagged
    rw [autoRegister_of_unflagged hUnflagged]
    -- the flag may be missing still, where it was not among the submissions
    show (autoRegister family submitted (submitted.foldl (submit family) catalog)).2 = _
    rw [autoRegister]
    split
    · rfl
    · exact foldl_submit_of_done (done_foldl_submit hNames submitted)

/-- In whatever order the submissions come, they are run to the same effect. -/
theorem same_autoRegister (hNames : family.Distinct) (hFlag : family.Foreign registrationFlag)
    {submitted others : List Submission} (hPerm : submitted.Perm others) :
    (autoRegister family submitted catalog).1 = (autoRegister family others catalog).1 ∧
      Same (autoRegister family submitted catalog).2 (autoRegister family others catalog).2 := by
  unfold autoRegister
  split
  · -- the flag is there, and nothing is run in either order
    exact ⟨rfl, fun _ => rfl, .refl _⟩
  · have hGet := get?_foldl_submit_perm hNames hFlag catalog hPerm
    obtain ⟨added, hAdded⟩ := grows_foldl_submit family catalog submitted
    obtain ⟨later, hLater⟩ := grows_foldl_submit family catalog others
    exact ⟨by rw [hPerm.length_eq], hGet, hAdded.perm hLater hGet⟩

/-! ## The theorem -/

/-- **Registration adds all that is missing and referred to, and nothing else.** In a family of
distinctly named members, whatever they refer to:

* every call of a registration ends, in one catalog, and `register` computes it;
* what was described stays described as it was, and a type that was missing is described afterwards
  just as the member of its name that is reached through missing members, if there is one;
* registering again changes nothing;
* types registered in any order make the same catalog;
* unless the flag is there, no submission has anything left to do once all have been run; they, too,
  may come in any order, as long as the flag, which is one of them, has a name of its own like the
  members; and running them again changes nothing. -/
theorem registration_closes (hNames : family.Distinct) (catalog : Catalog V) :
    (∀ shapes, ∃! after, Registers family catalog shapes after) ∧
      (∀ ident type, Registers family catalog [.record ident type]
        (catalog.register family type)) ∧
      (∀ start type description, catalog.get? type = some description →
        (catalog.register family start).get? type = some description) ∧
      (∀ start type description, catalog.contains type = false →
        ((catalog.register family start).get? type = some description ↔
          ∃ member, family.Reaches catalog [start] member ∧ member.description.type = type ∧
            member.description = description)) ∧
      (∀ start, (catalog.register family start).register family start =
        catalog.register family start) ∧
      (∀ types others : List TypeName, types.Perm others →
        Same (types.foldl (register family) catalog) (others.foldl (register family) catalog)) ∧
      (∀ submitted, catalog.contains registrationFlag = false →
        ∀ submission ∈ submitted,
          Done family (autoRegister family submitted catalog).2 submission) ∧
      (∀ submitted others : List Submission, submitted.Perm others →
        family.Foreign registrationFlag →
        (autoRegister family submitted catalog).1 = (autoRegister family others catalog).1 ∧
          Same (autoRegister family submitted catalog).2
            (autoRegister family others catalog).2) ∧
      ∀ submitted, (autoRegister family submitted (autoRegister family submitted catalog).2).2 =
        (autoRegister family submitted catalog).2 := by
  refine ⟨?ends, ?computed, ?kept, ?added, ?again, ?order, ?done, ?submissions, ?submittedAgain⟩
  case ends =>
    intro shapes
    exact ⟨_, (registers_iff hNames).mpr rfl, fun _ h => (registers_iff hNames).mp h⟩
  case computed =>
    intro ident type
    exact (registers_iff hNames).mpr rfl
  case kept =>
    intro start type description hBefore
    exact (get?_registerAll hNames).mpr (.inl hBefore)
  case added =>
    intro start type description hMissing
    rw [register, get?_registerAll hNames, contains_eq_false_iff.mp hMissing, or_iff_right]
    exact (Option.some_ne_none description).symm
  case again =>
    intro start
    exact registerAll_again hNames fun _ hType => hType
  case order =>
    intro types others hPerm
    rw [foldl_register, foldl_register]
    exact same_registerAll hNames hPerm
  case done =>
    intro submitted hUnflagged
    rw [autoRegister_of_unflagged hUnflagged]
    exact done_foldl_submit hNames submitted
  case submissions =>
    intro submitted others hPerm hFlag
    exact same_autoRegister hNames hFlag hPerm
  case submittedAgain =>
    intro submitted
    exact autoRegister_again hNames submitted catalog

/-- A company refers to its address by way of an office only: the address is registered along with
the company where the office is missing, and not where the office is described already. -/
theorem registration_closes_stock :
    Stock.family.Distinct ∧
      Stock.family.Foreign registrationFlag ∧
      (∃ member, Stock.family.Reaches standard [⟨"Company"⟩] member ∧
        member.description.type = ⟨"Address"⟩) ∧
      (¬∃ member, Stock.family.Reaches (standard.insert (.plain ⟨"Office"⟩ .concrete))
        [⟨"Company"⟩] member ∧ member.description.type = ⟨"Address"⟩) ∧
      Same (autoRegister Stock.family Stock.submitted standard).2
        (autoRegister Stock.family Stock.submitted.reverse standard).2 := by
  have hNames : Stock.family.Distinct := by decide +kernel
  have hFlag : Stock.family.Foreign registrationFlag := by
    intro member hMember hSame
    have hAmong : registrationFlag ∈ Stock.family.map (·.description.type) :=
      List.mem_map.mpr ⟨member, hMember, hSame⟩
    revert hAmong
    decide +kernel
  obtain ⟨-, -, -, hAdded, -, -, -, hOrder, -⟩ := registration_closes hNames standard
  obtain ⟨-, -, -, hCut, -⟩ :=
    registration_closes hNames (standard.insert (.plain ⟨"Office"⟩ .concrete))
  refine ⟨hNames, hFlag, ?_, ?_, (hOrder _ _ (List.reverse_perm _).symm hFlag).2⟩
  · have hFound : ((standard.register Stock.family ⟨"Company"⟩).get? ⟨"Address"⟩).isSome := by
      cbv
    obtain ⟨description, hDescription⟩ := Option.isSome_iff_exists.mp hFound
    obtain ⟨member, hReaches, hType, -⟩ := (hAdded _ _ _ (by decide +kernel)).mp hDescription
    exact ⟨member, hReaches, hType⟩
  · rintro ⟨member, hReaches, hType⟩
    have hDescription := (hCut _ _ _ (by decide +kernel)).mpr ⟨member, hReaches, hType, rfl⟩
    have hNone : (((standard.insert (.plain ⟨"Office"⟩ .concrete)).register Stock.family
        ⟨"Company"⟩).get? ⟨"Address"⟩).isSome = false := by
      cbv
    rw [hDescription] at hNone
    cases hNone

end Catalog

namespace Sample

/-- A record that is described under the name of the flag. -/
def marker : Record :=
  { ident := "Marker", type := Catalog.registrationFlag, fields := [Stock.field "label" .text]
    hasDefault := false }

/-- The record alone, as a family. -/
def markers : Family Value := [marker.registrable (marker.initial [])]

end Sample

namespace Catalog

/-- **A member that has the name of the flag is registered in place of it, or not at all**, whichever
of the two comes first. -/
theorem registration_order_matters :
    Sample.markers.Distinct ∧
      [Submission.flag, .type registrationFlag].Perm [.type registrationFlag, .flag] ∧
      ¬Same (autoRegister Sample.markers [.flag, .type registrationFlag] empty).2
        (autoRegister Sample.markers [.type registrationFlag, .flag] empty).2 := by
  refine ⟨by decide +kernel, .swap _ _ [], fun hSame => ?_⟩
  -- the flag has no fields, and the member has one
  have hFlagFirst : ((autoRegister Sample.markers [.flag, .type registrationFlag] empty).2.get?
      registrationFlag).map (·.fields.length) = some 0 := by cbv
  have hMemberFirst : ((autoRegister Sample.markers [.type registrationFlag, .flag] empty).2.get?
      registrationFlag).map (·.fields.length) = some 1 := by cbv
  rw [hSame.get?_eq, hMemberFirst] at hFlagFirst
  cases hFlagFirst

end Catalog

end Introspect
