import Introspect.Proofs.Profile.Discovery
import Introspect.Proofs.Renaming

/-!
# Names of type parameters in profiles

A type may call its parameters whatever it likes. A profile shows the types of values, which no
parameter is, so it stays the same when the parameters of a type are renamed. There is one exception:
a parameter that nothing has been supplied for gives way to its bound, which is looked up by its name
alone. Where that lookup meets a parameter of another type first, the name does matter.

* `Description.renameParameters` — a description with new names for its own parameters.
* `Source.FreshFor` — these names are distinct and used nowhere.
* `Source.Unambiguous` — no lookup in the build of a type meets a parameter of another type.

Main results:

* `Renames.profile_alike`: renamed sources give profiles that are alike.
* `parameter_names_irrelevant`: renaming the parameters of one type of a catalog.
* `parameter_names_matter`: a tray of numbers that holds anything, until its parameter is renamed.
-/

namespace Introspect

variable {V : Type}

/-! ## Renaming the parameters of one type -/

namespace Description

/-- The names of the parameters that the description declares. -/
def ownNames (description : Description V) : List String :=
  description.parameters.map Parameter.name

/-- The new name of what a type calls a parameter: only those of the described type get one. -/
def newName (description : Description V) (fresh : String → String) (type : TypeName)
    (name : String) : String :=
  if type = description.type ∧ name ∈ description.ownNames then fresh name else name

/-- The description with new names for its own parameters. -/
def renameParameters (description : Description V) (fresh : String → String) : Description V :=
  description.rename (description.newName fresh description.type)

/-- New names for its parameters leave a description with the type that it describes. -/
theorem type_renameParameters (description : Description V) (fresh : String → String) :
    (description.renameParameters fresh).type = description.type := rfl

end Description

namespace Source

variable {source target : Source V} {rename : TypeName → String → String} {plain : String → Prop}
  {type : TypeName}

/-- The new names are distinct, and no description uses any of them. -/
structure FreshFor (source : Source V) (renamed : Description V) (fresh : String → String) :
    Prop where
  distinct : ∀ name ∈ renamed.ownNames, ∀ other ∈ renamed.ownNames,
    fresh name = fresh other → name = other
  unused : ∀ name ∈ renamed.ownNames, ∀ type description,
    source.describe type = some description → fresh name ∉ description.parameterNames

/-- Wherever the build of a type is left with a parameter of one of these names, and the renamed type
owns it or is searched for it, the scopes that are searched agree with the owner. -/
def Unambiguous (source : Source V) (type : TypeName) (renamed : Description V) : Prop :=
  ∀ {declaring parameter owner name}, source.Resolves type declaring (.parameter parameter) →
    source.headAt type declaring parameter = .left owner name → name ∈ renamed.ownNames →
    renamed.type ∈ [owner, declaring, type] → source.Unmixed owner name [declaring, type]

/-- A catalog with new names for the parameters of one type is a renamed catalog. -/
theorem renames_insert {catalog : Catalog V} {renamed : Description V}
    (hRenamed : catalog.get? renamed.type = some renamed) {fresh : String → String}
    (hFresh : catalog.toSource.FreshFor renamed fresh) :
    catalog.toSource.Renames (catalog.insert (renamed.renameParameters fresh)).toSource
      (renamed.newName fresh) fun name => ∀ other ∈ renamed.ownNames, fresh other ≠ name where
  describe_eq type := by
    show (catalog.insert (renamed.renameParameters fresh)).get? type = (catalog.get? type).map _
    rw [Catalog.get?_insert, Description.type_renameParameters]
    by_cases hSame : renamed.type = type
    · subst hSame
      rw [if_pos rfl, hRenamed]
      rfl
    · -- another type keeps its names
      have hKept : renamed.newName fresh type = fun name => name :=
        funext fun name => if_neg fun h => hSame h.1.symm
      rw [if_neg hSame, hKept]
      cases catalog.get? type with
      | none => rfl
      | some description => rw [Option.map_some, Description.rename_same]
  plain_of_mem := by
    rintro type description name hSome hName other hOther rfl
    exact hFresh.unused other hOther type description hSome hName
  injective := by
    intro owner scope name other hName hOther hSame
    unfold Description.newName at hSame
    -- a new name is not plain, so that it can only meet another new one
    split at hSame
    · rename_i hNew
      split at hSame
      · rename_i hNew'
        exact hFresh.distinct name hNew.2 other hNew'.2 hSame
      · exact absurd hSame (hOther name hNew.2)
    · split at hSame
      · rename_i hNew'
        exact absurd hSame.symm (hName other hNew'.2)
      · exact hSame

/-! ## Renamed profiles -/

namespace Renames

/-- What a build resolves mentions names in use. -/
theorem plain_of_resolves (h : source.Renames target rename plain) {declaring : TypeName}
    {declared : TypeExpr} (hResolves : source.Resolves type declaring declared) {name : String}
    (hName : name ∈ declared.parameterNames) : plain name := by
  -- it is a type of a method of a candidate, or that of a field of the chain
  rcases hResolves with ⟨candidate, hCandidate, rfl, hDeclared⟩ | ⟨field, hField, rfl, rfl⟩
  · have hFair := h.retypes.fair_of_mem_candidates trivial hCandidate
    exact h.plain_of_declares (hFair.2 declared hDeclared) hName
  · obtain ⟨owner, hOwner, -, hMember⟩ := mem_chainFields_iff.mp hField
    exact h.plain_of_expr (of_mem_superclassChain hOwner).1
      (List.mem_append_right _ (List.mem_map_of_mem hMember)) hName

/-- **Renamed sources give profiles that are alike**, with values of the same types, if the lookups
that new names could lead astray are unmixed. -/
theorem profile_alike (h : source.Renames target rename plain)
    (hClear : ∀ {declaring parameter owner name},
      source.Resolves type declaring (.parameter parameter) →
      source.headAt type declaring parameter = .left owner name →
      (∃ scope ∈ [declaring, type], rename scope name ≠ rename owner name) →
      source.Unmixed owner name [declaring, type]) :
    SameOutcome (Profile.Alike fun seen seen' => seen'.valueType = seen.valueType)
      (source.profile type) (target.profile type) := by
  refine h.retypes.profile_alike trivial ?_ fun _ _ hSame => hSame
  intro declaring declared hResolves
  show (target.memberType (declared.rename (rename declaring)) declaring type).valueType =
    (source.memberType declared declaring type).valueType
  rw [valueType_memberType_eq, valueType_memberType_eq]
  -- what declares a type need not be a parameter; the other forms hold their own type
  cases declared with
  | named other => rw [TypeExpr.rename]; rfl
  | applied other arguments => rw [TypeExpr.rename]; rfl
  | parameter parameter =>
    rw [TypeExpr.rename]
    have hPlain : plain parameter :=
      h.plain_of_resolves hResolves (by simp [TypeExpr.parameterNames])
    obtain ⟨hHead, hPasses⟩ := h.headAt_eq type declaring hPlain
    show target.behind declaring type (target.headAt type declaring (rename declaring parameter)) =
      source.behind declaring type (source.headAt type declaring parameter)
    rw [hHead]
    cases hLeft : source.headAt type declaring parameter with
    | fixed other => rfl
    | left owner name =>
      rw [hLeft] at hPasses
      show target.parameterBound (rename owner name) [declaring, type] =
        source.parameterBound name [declaring, type]
      -- where no name moves, the bounds are looked up by names that stay, and nothing has to be
      -- clear
      by_cases hMoved : ∃ scope ∈ [declaring, type], rename scope name ≠ rename owner name
      · exact h.parameterBound_eq_of_unmixed hPasses (hClear hResolves hLeft hMoved)
      · refine h.parameterBound_eq hPasses fun scope hScope => ?_
        by_contra hOther
        exact hMoved ⟨scope, hScope, hOther⟩

end Renames

/--
**The names of type parameters do not matter where they are unambiguous.** Give the parameters of a
described type of a catalog distinct new names that nothing uses, throughout its description. Any type
whose build looks up no such parameter among those of another type has the same profile as before: the
same error, or the same properties in the same order, through the same accessors, with values of the
same types.
-/
theorem parameter_names_irrelevant (catalog : Catalog V) {renamed : Description V}
    (hRenamed : catalog.get? renamed.type = some renamed) {fresh : String → String}
    (hFresh : catalog.toSource.FreshFor renamed fresh)
    (hClear : catalog.toSource.Unambiguous type renamed) :
    SameOutcome (Profile.Alike fun seen seen' => seen'.valueType = seen.valueType)
      (catalog.toSource.profile type)
      ((catalog.insert (renamed.renameParameters fresh)).toSource.profile type) := by
  refine (renames_insert hRenamed hFresh).profile_alike ?_
  rintro declaring parameter owner name hResolves hLeft ⟨scope, hScope, hMoved⟩
  -- a name moves only if the renamed type declares it, and owns it or is searched for it
  unfold Description.newName at hMoved
  by_cases hName : name ∈ renamed.ownNames
  · refine hClear hResolves hLeft hName ?_
    by_cases hOwner : owner = renamed.type
    · rw [hOwner]
      exact List.mem_cons_self
    · by_cases hSame : scope = renamed.type
      · rw [← hSame]
        exact List.mem_cons_of_mem _ hScope
      · rw [if_neg fun h => hSame h.1, if_neg fun h => hOwner h.1] at hMoved
        exact absurd rfl hMoved
  · rw [if_neg fun h => hName h.2, if_neg fun h => hName h.2] at hMoved
    exact absurd rfl hMoved

end Source

/-! ## A sample -/

namespace Sample

def tray : TypeName := ⟨"Tray"⟩

def numberTray : TypeName := ⟨"NumberTray"⟩

/-- A number tray holds numbers of a kind of its own, which it has a name for. -/
def numberTrayOf (name : String) : Description Value :=
  { Description.plain numberTray .concrete with
    parameters := [⟨name, ⟨"Number"⟩⟩]
    superclass? := some (.applied tray [.parameter name]) }

/-- What a tray holds, which it calls `T`. -/
def content : Method Value :=
  { name := "getContent", returns? := some (.parameter "T"), parameters := [], isBridge := false
    body? := none }

/-- Trays that hold anything, and number trays. -/
def trays (name : String) : Catalog Value :=
  ⟨[{ Description.plain tray .concrete with
      parameters := [⟨"T", .object⟩], methods := [content] },
    numberTrayOf name]⟩

/-- The type of what is read under a name. -/
def readType? (source : Source Value) (type : TypeName) (name : String) : Option TypeName :=
  ((profileOf source type).readable.find? name).map (·.type.valueType)

/-- Nothing in a catalog of trays is called `U`. -/
theorem freshFor_trays {name : String} (hName : "U" ≠ name) :
    (trays name).toSource.FreshFor (numberTrayOf name) fun _ => "U" where
  distinct := by simp [Description.ownNames, numberTrayOf]
  unused := by
    rintro _ - type description hSome
    have hFound : (trays name).descriptions.find? (·.type == type) = some description := hSome
    have hMember := List.mem_of_find?_eq_some hFound
    simp only [trays, List.mem_cons, List.not_mem_nil, or_false] at hMember
    rcases hMember with rfl | rfl
    · decide
    · simpa [Description.parameterNames, Description.exprs, Description.supertypes, numberTrayOf,
        Description.plain, TypeExpr.parameterNamesAll, TypeExpr.parameterNames] using hName

/-- All that the build of a number tray has to resolve is what a tray holds, and a tray has no `N`. -/
theorem unambiguous_trays :
    (trays "N").toSource.Unambiguous numberTray (numberTrayOf "N") := by
  intro declaring parameter owner name hResolves hLeft _ _
  -- what may be left with a parameter is one method of the tray alone
  have hCandidates : (trays "N").toSource.candidates numberTray = [⟨tray, content⟩] := by cbv
  have hFields : (trays "N").toSource.chainFields numberTray = [] := by cbv
  obtain ⟨rfl, rfl⟩ : declaring = tray ∧ parameter = "T" := by
    rcases hResolves with ⟨candidate, hCandidate, hDeclaring, hDeclared⟩ | ⟨field, hField, -⟩
    · rw [hCandidates] at hCandidate
      obtain rfl := List.mem_singleton.mp hCandidate
      simpa [Method.types, content, hDeclaring.symm] using hDeclared
    · rw [hFields] at hField
      cases hField
  have hHead : (trays "N").toSource.headAt numberTray tray "T" = .left numberTray "N" := by cbv
  obtain ⟨rfl, rfl⟩ := Head.left.inj (hHead.symm.trans hLeft)
  have hTray : (trays "N").toSource.bound? tray "N" = none := by cbv
  have hOwn : (trays "N").toSource.bound? numberTray "N" = some ⟨"Number"⟩ := by cbv
  have hBound : (trays "N").toSource.ownBound numberTray "N" [tray, numberTray] = ⟨"Number"⟩ := by
    cbv
  -- it is looked up in the tray first, which has no such parameter, and then in its owner
  intro scope hScope bound hFound
  rw [hBound]
  simp only [List.mem_cons, List.not_mem_nil, or_false] at hScope
  rcases hScope with rfl | rfl
  · rw [hTray] at hFound
    cases hFound
  · rw [hOwn] at hFound
    exact (Option.some.inj hFound).symm

end Sample

namespace Source

/-- A number tray that calls its numbers `N` holds numbers, and it does so when it calls them `U`. -/
theorem parameter_names_irrelevant_trays :
    (Sample.trays "N").get? Sample.numberTray = some (Sample.numberTrayOf "N") ∧
      (Sample.trays "N").toSource.FreshFor (Sample.numberTrayOf "N") (fun _ => "U") ∧
      (Sample.trays "N").toSource.Unambiguous Sample.numberTray (Sample.numberTrayOf "N") ∧
      SameOutcome (Profile.Alike fun seen seen' => seen'.valueType = seen.valueType)
        ((Sample.trays "N").toSource.profile Sample.numberTray)
        (((Sample.trays "N").insert ((Sample.numberTrayOf "N").renameParameters
          fun _ => "U")).toSource.profile Sample.numberTray) ∧
      Sample.readType? (Sample.trays "N").toSource Sample.numberTray "content" =
        some ⟨"Number"⟩ := by
  have hFresh : (Sample.trays "N").toSource.FreshFor (Sample.numberTrayOf "N") fun _ => "U" :=
    Sample.freshFor_trays (by decide)
  exact ⟨rfl, hFresh, Sample.unambiguous_trays,
    parameter_names_irrelevant (Sample.trays "N") rfl hFresh Sample.unambiguous_trays, by cbv⟩

/-- If it calls its numbers `T`, as trays call what they hold, then it holds anything; but as soon as
it calls them `U`, which nothing else does, it holds numbers. -/
theorem parameter_names_matter :
    (Sample.trays "T").get? Sample.numberTray = some (Sample.numberTrayOf "T") ∧
      (Sample.trays "T").toSource.FreshFor (Sample.numberTrayOf "T") (fun _ => "U") ∧
      Sample.readType? (Sample.trays "T").toSource Sample.numberTray "content" = some .object ∧
      Sample.readType? ((Sample.trays "T").insert ((Sample.numberTrayOf "T").renameParameters
        fun _ => "U")).toSource Sample.numberTray "content" = some ⟨"Number"⟩ :=
  ⟨rfl, Sample.freshFor_trays (by decide), by cbv, by cbv⟩

end Source

end Introspect
