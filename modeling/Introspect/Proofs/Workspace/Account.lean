import Introspect.Proofs.Cache.Warm
import Introspect.Proofs.Workspace.Accesses
import Introspect.Value
import Mathlib

/-!
# What a cache holds over a run

Over a whole run of edits, requests and switches, the content of a cache is an account of the
accesses that were made: which builds succeeded, on which catalog, and since when the cache is on.

* `Moment` — an access, with the depot as it was just before; `Depot.moments` lists those of a run.
* `Depot.Accounted` — the state after some accesses, read off their moments.

Main results:

* `Depot.accounted`: every run from a new cache is accounted for.
* `Depot.kept?_run_of_on`: an entry lasts until the cache is switched off.
* `Inquiry.run_warm`: an inquiry that has been answered is answered again without a build.
* `Workspace.cache_account`: all of this, for whatever the caller of a workspace does.
-/

namespace Introspect

variable {V α : Type}

/-! ## Moments -/

/-- An access, and the depot just before it. -/
structure Moment (V : Type) where
  depot : Depot V
  access : Access V

namespace Moment

/-- What a request for the type builds from the catalog as it stands, if that succeeds: the next
build in order. -/
def obtained? (type : TypeName) (moment : Moment V) : Option (Entry V) :=
  match moment.access with
  | .request other =>
    if other = type then
      (moment.depot.source.profile type).toOption.map fun profile =>
        ⟨moment.depot.cache.builds + 1, profile⟩
    else none
  | _ => none

/-- Whether a request finds no entry, or finds the cache off. -/
def misses (moment : Moment V) : Bool :=
  match moment.access with
  | .request type => !moment.depot.cache.enabled || (moment.depot.cache.kept? type).isNone
  | _ => false

end Moment

namespace Depot

/-- A depot over which nothing has been asked yet. -/
def create (catalog : Catalog V) (settings : Settings) : Depot V := ⟨catalog, Cache.create settings⟩

/-- The moments of several accesses. -/
def moments (depot : Depot V) : List (Access V) → List (Moment V)
  | [] => []
  | access :: rest => ⟨depot, access⟩ :: (depot.after access).moments rest

/-- The moments since the cache was off for the last time. -/
def sinceOff (depot : Depot V) (past : List (Access V)) : List (Moment V) :=
  (depot.moments past).rtakeWhile (·.depot.cache.enabled)

variable {start depot : Depot V} {past : List (Access V)} {type : TypeName}

/-- The last access adds its moment to those before. -/
theorem moments_concat (depot : Depot V) (past : List (Access V)) (access : Access V) :
    depot.moments (past ++ [access]) = depot.moments past ++ [⟨depot.run past, access⟩] := by
  induction past generalizing depot with
  | nil => rfl
  | cons first rest ih => rw [List.cons_append, moments, moments, ih, List.cons_append, run_cons]

/-- The last access adds its moment if the cache is on, and otherwise the count starts again. -/
theorem sinceOff_concat (depot : Depot V) (past : List (Access V)) (access : Access V) :
    depot.sinceOff (past ++ [access]) =
      if (depot.run past).cache.enabled then depot.sinceOff past ++ [⟨depot.run past, access⟩]
      else [] := by
  rw [sinceOff, moments_concat, List.rtakeWhile_concat]
  rfl

/-! ## One access -/

/-- An access leaves the switch as it is, unless it is one of the switch. -/
theorem enabled_after (h : depot.cache.Tidy) (access : Access V) :
    (depot.after access).cache.enabled =
      match access with
      | .switch enabled => enabled
      | _ => depot.cache.enabled := by
  -- only the switch itself says what becomes of the switch
  cases access with
  | edit edit => rfl
  | request type => exact (h.resolve depot.source type).2.1
  | report event => rfl
  | switch enabled => cases enabled <;> rfl

/-- A request that builds gives the entry of a type, unless it has one. -/
theorem kept?_after_request (h : depot.cache.Tidy) (hOn : depot.cache.enabled = true)
    (requested : TypeName) :
    (depot.after (.request requested)).cache.kept? type =
      (depot.cache.kept? type).or ((⟨depot, .request requested⟩ : Moment V).obtained? type) := by
  obtain ⟨-, -, hServes⟩ := h.resolve depot.source requested
  show (depot.cache.resolve depot.source requested).2.kept? type = _
  unfold Moment.obtained?
  by_cases hSame : requested = type
  · -- the type that was asked for
    subst hSame
    generalize (depot.cache.resolve depot.source requested).1 = result at hServes
    cases hServes with
    | hit held entries builds => rw [entries requested, held, Option.some_or]
    | failed missed fails entries builds => simp [entries requested, fails, Except.toOption]
    | built missed succeeds entries builds =>
      simp [entries requested, hOn, missed, succeeds, Except.toOption]
  · -- another type, whose entry stays what it is
    rw [hServes.kept?_of_ne (Ne.symm hSame)]
    simp [hSame]

/-- **One access**: while the cache is on, entries stay, and a request that builds adds one. -/
theorem kept?_after (h : depot.cache.Tidy) (access : Access V) :
    (depot.after access).cache.kept? type =
      if (depot.after access).cache.enabled then
        (depot.cache.kept? type).or ((⟨depot, access⟩ : Moment V).obtained? type)
      else none := by
  split
  · rename_i hOn
    -- all but a request leave the entries alone and obtain nothing
    cases access with
    | edit edit => exact (Option.or_none).symm
    | request requested =>
      exact kept?_after_request h ((enabled_after h (.request requested)).symm.trans hOn) requested
    | report event => exact (Option.or_none).symm
    | switch enabled =>
      cases enabled with
      | true => exact (Option.or_none).symm
      | false => cases hOn
  · -- no entry is held while the cache is off
    rename_i hOff
    exact (tidy_after h access).kept?_of_off (Bool.eq_false_iff.mpr hOff) type

/-- An access begins a build exactly if it is a request that misses. -/
theorem builds_after (h : depot.cache.Tidy) (access : Access V) :
    (depot.after access).cache.builds =
      depot.cache.builds + if (⟨depot, access⟩ : Moment V).misses then 1 else 0 := by
  -- edits, reports and switches build nothing, and no more do requests that find an entry
  cases access with
  | edit edit => rfl
  | report event => rfl
  | switch enabled => cases enabled <;> rfl
  | request requested =>
    obtain ⟨-, -, hServes⟩ := h.resolve depot.source requested
    show (depot.cache.resolve depot.source requested).2.builds = _
    unfold Moment.misses
    generalize (depot.cache.resolve depot.source requested).1 = result at hServes
    cases hServes with
    | hit held entries builds =>
      -- what is found in the cache is no reason to build, and the cache is on
      have hOn := h.enabled_of_kept held
      simp [builds, held, hOn]
    | failed missed fails entries builds => simp [builds, missed]
    | built missed succeeds entries builds => simp [builds, missed]

/-! ## Runs -/

/-- The state of a depot after some accesses, as an account of their moments. -/
structure Accounted (start : Depot V) (past : List (Access V)) : Prop where
  /-- While the cache is off, no entry is held. -/
  off : (start.run past).cache.enabled = false →
    ∀ type, (start.run past).cache.kept? type = none
  /-- While it is on, the entry of a type is what the first successful request for it has built
  since the cache was off. -/
  on : (start.run past).cache.enabled = true → ∀ type,
    (start.run past).cache.kept? type = (start.sinceOff past).findSome? (·.obtained? type)
  /-- A build that fails makes no entry and takes none away. -/
  failed : ∀ type cause, (start.run past).source.profile type = .error cause → ∀ other,
    ((start.run past).after (.request type)).cache.kept? other =
      (start.run past).cache.kept? other
  /-- The size is the number of types with an entry. -/
  size : ∃ types : List TypeName, types.Nodup ∧
    (∀ type, type ∈ types ↔ ((start.run past).cache.kept? type).isSome = true) ∧
    (start.run past).cache.size = types.length
  /-- One build was begun for each request that found no entry, or found the cache off. -/
  builds : (start.run past).cache.builds =
    start.cache.builds + (start.moments past).countP Moment.misses

theorem run_concat (depot : Depot V) (past : List (Access V)) (access : Access V) :
    depot.run (past ++ [access]) = (depot.run past).after access := by
  rw [run_append]
  rfl

/-- Only a request obtains an entry. -/
theorem obtained?_eq_none {access : Access V} (hOther : ∀ type, access ≠ .request type) :
    (⟨depot, access⟩ : Moment V).obtained? type = none := by
  cases access with
  | edit edit => rfl
  | request requested => exact absurd rfl (hOther requested)
  | report event => rfl
  | switch enabled => rfl

/-- Since the cache was off, the first successful request for a type has made its entry. -/
theorem kept?_run (hStart : start.cache.Tidy) (hEmpty : ∀ type, start.cache.kept? type = none)
    (past : List (Access V)) (hOn : (start.run past).cache.enabled = true) (type : TypeName) :
    (start.run past).cache.kept? type = (start.sinceOff past).findSome? (·.obtained? type) := by
  -- along the run from its start: each access extends the moments by its own
  induction past using List.reverseRecOn with
  | nil => exact hEmpty type
  | append_singleton past access ih =>
    have hTidy := tidy_run hStart past
    rw [run_concat] at hOn ⊢
    rw [kept?_after hTidy, if_pos hOn, sinceOff_concat]
    by_cases hBefore : (start.run past).cache.enabled = true
    · -- the moments since the cache was off go on with this one
      rw [if_pos hBefore, List.findSome?_append, ← ih hBefore]
      simp
    · -- the cache was just switched on, and nothing has been obtained yet
      have hOff : (start.run past).cache.enabled = false := Bool.eq_false_iff.mpr hBefore
      have hSwitched : ∀ type, access ≠ .request type := by
        rintro requested rfl
        exact hBefore ((enabled_after hTidy (.request requested)).symm.trans hOn)
      rw [if_neg hBefore, hTidy.kept?_of_off hOff, obtained?_eq_none hSwitched]
      rfl

/-- The builds of a run are the requests in it that missed. -/
theorem builds_run (hStart : start.cache.Tidy) (past : List (Access V)) :
    (start.run past).cache.builds =
      start.cache.builds + (start.moments past).countP Moment.misses := by
  -- by the last access, which is counted if it misses
  induction past using List.reverseRecOn with
  | nil => rfl
  | append_singleton past access ih =>
    -- the last access begins a build exactly if it misses
    rw [run_concat, builds_after (tidy_run hStart past), ih, moments_concat, List.countP_append,
      List.countP_singleton, Nat.add_assoc]

/-- **Every run from a new cache is accounted for.** -/
theorem accounted (catalog : Catalog V) (settings : Settings) (past : List (Access V)) :
    (create catalog settings).Accounted past := by
  have hStart : (create catalog settings).cache.Tidy := Cache.tidy_create settings
  have hTidy := tidy_run hStart past
  exact ⟨hTidy.kept?_of_off, kept?_run hStart (fun _ => rfl) past,
    fun _ _ hFails => hTidy.kept?_of_failed hFails, hTidy.exists_types, builds_run hStart past⟩

/-! ## What lasts -/

/-- **An entry lasts until the cache is switched off**, whatever becomes of the catalog. -/
theorem kept?_run_of_on (h : depot.cache.Tidy) {entry : Entry V}
    (hEntry : depot.cache.kept? type = some entry) (between : List (Access V))
    (hOn : ∀ access ∈ between, access ≠ .switch false) :
    (depot.run between).cache.kept? type = some entry := by
  -- along the accesses; the entry is there before each of them, so the cache is on
  induction between generalizing depot with
  | nil => exact hEntry
  | cons access rest ih =>
    have hEnabled := h.enabled_of_kept hEntry
    -- and no access but one switches it off
    have hAfter : (depot.after access).cache.enabled = true := by
      rw [enabled_after h]
      cases access with
      | edit edit => exact hEnabled
      | request requested => exact hEnabled
      | report event => exact hEnabled
      | switch enabled =>
        cases enabled with
        | true => rfl
        | false => exact absurd rfl (hOn _ List.mem_cons_self)
    refine ih (tidy_after h access) ?_ fun other hOther => hOn other (List.mem_cons_of_mem _ hOther)
    rw [kept?_after h, if_pos hAfter, hEntry, Option.some_or]

/-- Quiet accesses leave the catalog as it is. -/
theorem catalog_run_of_quiet (accesses : List (Access V))
    (hQuiet : ∀ access ∈ accesses, access.isQuiet = true) :
    (depot.run accesses).catalog = depot.catalog := by
  -- along the accesses, none of which edits the catalog
  induction accesses generalizing depot with
  | nil => rfl
  | cons access rest ih =>
    rw [run_cons, ih fun other hOther => hQuiet other (List.mem_cons_of_mem _ hOther)]
    cases access with
    | edit edit =>
      have hNot : (Access.edit edit).isQuiet = true := hQuiet _ List.mem_cons_self
      cases hNot
    | request requested => rfl
    | report event => rfl
    | switch enabled => rfl

/-- **An inquiry that has been answered stays answered**: after quiet accesses the same answer is
given once more, without a build. -/
theorem answer_warm (h : depot.cache.Tidy) (hOn : depot.cache.enabled = true)
    (inquiry : Inquiry V α) {answer : α} (hAnswer : depot.answer inquiry = .ok answer)
    (later : List (Access V)) (hQuiet : ∀ access ∈ later, access.isQuiet = true) :
    ((depot.asked inquiry).run later).answer inquiry = .ok answer ∧
      (((depot.asked inquiry).run later).asked inquiry).cache.builds =
        ((depot.asked inquiry).run later).cache.builds := by
  have hAsked : (depot.asked inquiry).cache.Tidy := (Inquiry.tidy_run h inquiry).1
  have hWarm := tidy_run hAsked later
  -- nothing is edited, so both answers come from one source
  have hSource : ((depot.asked inquiry).run later).source = depot.source :=
    congrArg Catalog.toSource (catalog_run_of_quiet later hQuiet)
  have hSwitches : ∀ access ∈ later, access ≠ .switch false := by
    rintro access hAccess rfl
    cases hQuiet _ hAccess
  have hAgain := inquiry.run_warm h hWarm hOn hAnswer fun hEntry =>
    kept?_run_of_on hAsked hEntry later hSwitches
  -- the catalog is the one that the first answer came from
  rw [← hSource] at hAgain
  exact hAgain

end Depot

/-! ## The main result -/

namespace Workspace

/--
**The cache of a workspace is accounted for, over whatever its caller does.** Every run is a series of
accesses, those of its questions among them, and after each of them:

* what the cache holds, its size and its builds are read off the accesses so far;
* a type that has an entry is answered with that very entry from then on, whatever becomes of the
  catalog, until the cache is switched off;
* a path that has been resolved while the cache is on is resolved again to the same, and without a
  build, as long as the catalog is not edited and the cache not switched off.
-/
theorem cache_account (catalog : Catalog V) (settings : Settings) (held : Holdings V)
    (actions : List (Action V)) :
    ((create catalog settings held).run actions).2.depot =
      (Depot.create catalog settings).run ((create catalog settings held).accesses actions) ∧
    ∀ past, past <+: (create catalog settings held).accesses actions →
      let now := (Depot.create catalog settings).run past
      (Depot.create catalog settings).Accounted past ∧
      (∀ type entry, now.cache.kept? type = some entry →
        ∀ between, (∀ access ∈ between, access ≠ .switch false) → ∀ source : Source V,
          ((now.run between).cache.resolve source type).1 = .ok entry) ∧
      (now.cache.enabled = true →
        ∀ (profile : Profile V) (camelCase : Bool) (path : Path) (resolution : Profile.Resolution),
          now.answer (profile.resolveAt camelCase path) = .ok resolution →
            ∀ later, (∀ access ∈ later, access.isQuiet = true) →
              let warm := (now.asked (profile.resolveAt camelCase path)).run later
              warm.answer (profile.resolveAt camelCase path) = .ok resolution ∧
                (warm.asked (profile.resolveAt camelCase path)).cache.builds =
                  warm.cache.builds) := by
  have hStart : (Depot.create catalog settings).cache.Tidy := Cache.tidy_create settings
  refine ⟨depot_run hStart actions, ?_⟩
  intro past _ now
  -- every state of a run from a new cache is tidy
  have hNow : now.cache.Tidy := Depot.tidy_run hStart past
  refine ⟨Depot.accounted catalog settings past, ?_, ?_⟩
  · -- entries last, and an entry is what the type is answered with
    intro type entry hEntry between hOn source
    have hLasts := Depot.kept?_run_of_on hNow hEntry between hOn
    exact ((Depot.tidy_run hNow between).resolve_of_entry source hLasts).1
  · -- what was asked for on the way has entries, which last
    intro hOn profile camelCase path resolution hAnswer later hQuiet
    exact Depot.answer_warm hNow hOn _ hAnswer later hQuiet

end Workspace

/-! ## A sample -/

namespace Sample

def crate : TypeName := ⟨"Crate"⟩

/-- A crate has a weight. -/
def crateDescription : Description Value :=
  { Description.plain crate .concrete with
    fields := [{ name := "weight", type := .named ⟨"i64"⟩, isStatic := false, isFinal := false
                 reader? := none, writer? := none }] }

/-- A workspace in which nothing is described. -/
def bare : Workspace Value := .create .empty .standard ⟨[], []⟩

/-- Asks for the profile of a crate. -/
def askCrate : Action Value := .ask (.profile (.fresh crate) none)

/-- Asks before and after the crate is described, and once more after the cache was off. -/
def crateActions : List (Action Value) :=
  [askCrate, .edit (.insert crateDescription), askCrate, .switch false, .switch true, askCrate]

end Sample

namespace Workspace

/-- A crate that was asked for before it was described has no properties, and nothing changes that
until the cache was off: only then it has a weight, from a second build. -/
theorem cache_account_crate :
    Sample.bare.accesses Sample.crateActions =
        [.request Sample.crate, .edit (.insert Sample.crateDescription), .request Sample.crate] ++
          [.switch false, .switch true, .request Sample.crate] ∧
      (∀ source : Source Value,
        ((Sample.bare.depot.run [.request Sample.crate, .edit (.insert Sample.crateDescription),
          .request Sample.crate]).cache.resolve source Sample.crate).1 =
            .ok ⟨1, .empty Sample.crate⟩) ∧
      (Sample.bare.run Sample.crateActions).2.session.cache.builds = 2 ∧
      ((Sample.bare.run Sample.crateActions).2.session.cache.kept? Sample.crate).map
        (·.profile.readable.names) = some ["weight"] := by
  have hAccesses : Sample.bare.accesses Sample.crateActions =
      [.request Sample.crate, .edit (.insert Sample.crateDescription), .request Sample.crate] ++
        [.switch false, .switch true, .request Sample.crate] := by cbv
  obtain ⟨hRun, hAccount⟩ :=
    cache_account Catalog.empty Settings.standard (⟨[], []⟩ : Holdings Value) Sample.crateActions
  have hFirst : [.request Sample.crate] <+: Sample.bare.accesses Sample.crateActions := by
    rw [hAccesses]
    exact ⟨_, rfl⟩
  obtain ⟨hBefore, hLasts, -⟩ := hAccount _ hFirst
  obtain ⟨hAfter, -, -⟩ := hAccount _ (List.prefix_refl _)
  refine ⟨hAccesses, fun source => ?_, ?_, ?_⟩
  · -- the first request has built from a catalog that says nothing
    have hEntry := hBefore.on (by cbv) Sample.crate
    refine hLasts Sample.crate ⟨1, .empty Sample.crate⟩ (hEntry.trans (by cbv))
      [.edit (.insert Sample.crateDescription), .request Sample.crate] ?_ source
    simp
  · -- of the three requests the first one and the last one have missed
    have hBuilds := hAfter.builds
    rw [← hRun] at hBuilds
    refine hBuilds.trans ?_
    cbv
  · -- the entry is the one that the request after the switch has built
    have hEntry := hAfter.on (by cbv) Sample.crate
    rw [← hRun] at hEntry
    refine (congrArg _ hEntry).trans ?_
    cbv

end Workspace

end Introspect
