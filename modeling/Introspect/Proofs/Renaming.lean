import Introspect.Proofs.Profile.Correspondence

/-!
# Renamed type parameters

The type parameters of a described type may be given other names, throughout its description. The
hierarchy stays as it is, and erased types as well. What a parameter comes down to on the way to a
subtype is renamed along: it is the same parameter of the same type.

* `TypeExpr.rename` and `Description.rename` — every parameter gets another name.
* `Source.Renames` — the descriptions of one source are those of another, with parameters renamed type
  by type, so that no two names become one.
* `Source.Unmixed` — the scopes in which a parameter is looked up agree with the type that it belongs
  to.

Main results:

* `Renames.retypes`: a build takes the same course.
* `Renames.headAt_eq`: parameters come down to the same parameters, renamed.
* `Renames.parameterBound_eq_of_unmixed`: an unmixed parameter has the same bound under its new name.
-/

namespace Introspect

variable {V : Type}

/-! ## Renaming -/

namespace TypeExpr

mutual

/-- The expression with every parameter renamed, at any depth. -/
def rename (f : String → String) : TypeExpr → TypeExpr
  | .named type => .named type
  | .parameter name => .parameter (f name)
  | .applied type arguments => .applied type (renameAll f arguments)

/-- Renames the parameters of several expressions. -/
def renameAll (f : String → String) : List TypeExpr → List TypeExpr
  | [] => []
  | expr :: rest => rename f expr :: renameAll f rest

end

mutual

/-- The parameters that an expression mentions, at any depth. -/
def parameterNames : TypeExpr → List String
  | .named _ => []
  | .parameter name => [name]
  | .applied _ arguments => parameterNamesAll arguments

/-- The parameters that several expressions mention. -/
def parameterNamesAll : List TypeExpr → List String
  | [] => []
  | expr :: rest => parameterNames expr ++ parameterNamesAll rest

end

mutual

/-- Nothing is renamed when every name stays. -/
theorem rename_same : ∀ expr : TypeExpr, expr.rename (fun name => name) = expr
  | .named _ => by rw [rename]
  | .parameter _ => by rw [rename]
  | .applied _ arguments => by rw [rename, renameAll_same arguments]

theorem renameAll_same : ∀ exprs : List TypeExpr, renameAll (fun name => name) exprs = exprs
  | [] => by rw [renameAll]
  | expr :: rest => by rw [renameAll, rename_same expr, renameAll_same rest]

end

/-- Several expressions are renamed one by one. -/
theorem renameAll_eq_map (f : String → String) :
    ∀ exprs : List TypeExpr, renameAll f exprs = exprs.map (rename f)
  | [] => by rw [renameAll, List.map_nil]
  | expr :: rest => by rw [renameAll, renameAll_eq_map f rest, List.map_cons]

/-- Several expressions mention what any of them mentions. -/
theorem mem_parameterNamesAll {name : String} :
    ∀ {exprs : List TypeExpr}, name ∈ parameterNamesAll exprs ↔
      ∃ expr ∈ exprs, name ∈ expr.parameterNames
  | [] => by simp [parameterNamesAll]
  | expr :: rest => by
    rw [parameterNamesAll, List.mem_append, mem_parameterNamesAll]
    simp

theorem raw?_rename (f : String → String) (expr : TypeExpr) : (expr.rename f).raw? = expr.raw? := by
  cases expr <;> simp only [rename, raw?]

/-- The arguments are renamed along. -/
theorem arguments_rename (f : String → String) (expr : TypeExpr) :
    (expr.rename f).arguments = expr.arguments.map (rename f) := by
  cases expr with
  | named type => rw [rename]; rfl
  | parameter name => rw [rename]; rfl
  | applied type arguments => rw [rename]; exact renameAll_eq_map f arguments

/-- What the arguments mention, the expression mentions. -/
theorem mem_parameterNames_of_argument {expr argument : TypeExpr} {name : String}
    (hArgument : argument ∈ expr.arguments) (hName : name ∈ argument.parameterNames) :
    name ∈ expr.parameterNames := by
  cases expr with
  | named type => cases hArgument
  | parameter other => cases hArgument
  | applied type arguments =>
    rw [parameterNames]
    exact mem_parameterNamesAll.mpr ⟨argument, hArgument, hName⟩

end TypeExpr

/-- The parameter under another name. -/
def Parameter.rename (f : String → String) (parameter : Parameter) : Parameter :=
  { parameter with name := f parameter.name }

namespace Description

/-- The description with every parameter renamed, where it is declared and where it is mentioned. -/
def rename (f : String → String) (description : Description V) : Description V :=
  { description with
    parameters := description.parameters.map (Parameter.rename f)
    superclass? := description.superclass?.map (TypeExpr.rename f)
    interfaces := description.interfaces.map (TypeExpr.rename f)
    methods := description.methods.map (Method.mapTypes (TypeExpr.rename f))
    fields := description.fields.map (Field.mapType (TypeExpr.rename f)) }

/-- The type expressions that a description holds. -/
def exprs (description : Description V) : List TypeExpr :=
  description.supertypes ++ description.methods.flatMap Method.types ++
    description.fields.map Field.type

/-- The names of parameters that a description declares or mentions. -/
def parameterNames (description : Description V) : List String :=
  description.parameters.map Parameter.name ++ TypeExpr.parameterNamesAll description.exprs

/-- A description in which every name stays is the same. -/
theorem rename_same (description : Description V) :
    description.rename (fun name => name) = description := by
  -- nothing changes in any of its parts
  have hExprs : TypeExpr.rename (fun name => name) = fun expr => expr :=
    funext TypeExpr.rename_same
  have hMethods : description.methods.map (Method.mapTypes fun expr => expr) =
      description.methods :=
    List.map_id'' (fun method => by rw [Method.mapTypes, Option.map_id', List.map_id']) _
  have hFields : description.fields.map (Field.mapType fun expr => expr) = description.fields :=
    List.map_id'' (fun _ => rfl) _
  have hParameters : description.parameters.map (Parameter.rename fun name => name) =
      description.parameters :=
    List.map_id'' (fun _ => rfl) _
  unfold rename
  -- so nothing changes in the whole
  rw [hExprs, hMethods, hFields, hParameters, Option.map_id', List.map_id']

end Description

/-- A head whose parameter is renamed as in the type that it belongs to. -/
def Head.rename (rename : TypeName → String → String) : Head → Head
  | .fixed type => .fixed type
  | .left owner name => .left owner (rename owner name)

/-- The parameter of the head, if it is one, passes a test. -/
def Head.Passes (plain : String → Prop) : Head → Prop
  | .fixed _ => True
  | .left _ name => plain name

namespace Source

variable {source target : Source V} {rename : TypeName → String → String} {plain : String → Prop}

/-! ## Scopes -/

/-- The bound that a type gives to a parameter, if it declares one of the name. -/
def bound? (source : Source V) (scope : TypeName) (name : String) : Option TypeName :=
  (source.describe scope).bind fun description =>
    (description.parameters.find? (·.name == name)).map Parameter.bound

/-- The bound of a parameter is that of the first scope that declares it, and `object` without one.
-/
theorem parameterBound_eq_bound? (name : String) (scopes : List TypeName) :
    source.parameterBound name scopes = (scopes.findSome? (source.bound? · name)).getD .object :=
  rfl

/-- The bound of a parameter in the type that it belongs to, if that is among the scopes. -/
def ownBound (source : Source V) (owner : TypeName) (name : String) (scopes : List TypeName) :
    TypeName :=
  source.parameterBound name (scopes.filter (· = owner))

/-- No scope gives the parameter another bound than the type that it belongs to. -/
def Unmixed (source : Source V) (owner : TypeName) (name : String) (scopes : List TypeName) :
    Prop :=
  ∀ scope ∈ scopes, ∀ bound, source.bound? scope name = some bound →
    bound = source.ownBound owner name scopes

/-- **An unmixed parameter is looked up rightly**, whatever the order of the scopes. -/
theorem parameterBound_of_unmixed {owner : TypeName} {name : String} {scopes : List TypeName}
    (h : source.Unmixed owner name scopes) :
    source.parameterBound name scopes = source.ownBound owner name scopes := by
  rw [parameterBound_eq_bound?]
  cases hFound : scopes.findSome? (source.bound? · name) with
  | some bound =>
    obtain ⟨scope, hScope, hBound⟩ := List.exists_of_findSome?_eq_some hFound
    exact h scope hScope bound hBound
  | none =>
    -- no scope declares it, and so the owner does not either
    have hOwner : (scopes.filter (· = owner)).findSome? (source.bound? · name) = none := by
      rw [List.findSome?_eq_none_iff] at hFound ⊢
      exact fun scope hScope => hFound scope (List.mem_of_mem_filter hScope)
    rw [ownBound, parameterBound_eq_bound?, hOwner]

/-! ## Renamed sources -/

/-- The descriptions of `target` are those of `source`, with the parameters of each type renamed. The
names in use are plain, and no two plain names become one, not even in different types. -/
structure Renames (source target : Source V) (rename : TypeName → String → String)
    (plain : String → Prop) : Prop where
  describe_eq : ∀ type,
    target.describe type = (source.describe type).map (Description.rename (rename type))
  plain_of_mem : ∀ {type description name}, source.describe type = some description →
    name ∈ description.parameterNames → plain name
  injective : ∀ {owner scope name other}, plain name → plain other →
    rename owner name = rename scope other → name = other

namespace Renames

/-- Renaming leaves the hierarchy as it is. -/
theorem redescribes (h : source.Renames target rename plain) :
    source.Redescribes target (fun _ => True) (fun type => Description.rename (rename type))
      fun type => TypeExpr.rename (rename type) where
  describe_eq _ := h.describe_eq _
  closed _ _ := trivial
  kind_eq _ _ := rfl
  superclass?_eq _ _ := rfl
  interfaces_eq _ _ := rfl
  raw?_eq type reference := TypeExpr.raw?_rename (rename type) reference

/-! ### Names in use -/

/-- The names of declared parameters are in use. -/
theorem plain_of_parameter (h : source.Renames target rename plain) {type : TypeName}
    {description : Description V} (hSome : source.describe type = some description)
    {parameter : Parameter} (hParameter : parameter ∈ description.parameters) :
    plain parameter.name :=
  h.plain_of_mem hSome (List.mem_append_left _ (List.mem_map_of_mem hParameter))

/-- The names that an expression of a description mentions are in use. -/
theorem plain_of_expr (h : source.Renames target rename plain) {type : TypeName}
    {description : Description V} (hSome : source.describe type = some description)
    {expr : TypeExpr} (hExpr : expr ∈ description.exprs) {name : String}
    (hName : name ∈ expr.parameterNames) : plain name :=
  h.plain_of_mem hSome
    (List.mem_append_right _ (TypeExpr.mem_parameterNamesAll.mpr ⟨expr, hExpr, hName⟩))

/-- The names that a method of a type mentions are in use. -/
theorem plain_of_declares (h : source.Renames target rename plain) {owner : TypeName}
    {declared : TypeExpr} (hDeclares : source.Declares owner declared) {name : String}
    (hName : name ∈ declared.parameterNames) : plain name := by
  obtain ⟨description, hSome, method, hMethod, hDeclared⟩ := hDeclares
  refine h.plain_of_expr hSome (List.mem_append_left _ (List.mem_append_right _ ?_)) hName
  exact List.mem_flatMap.mpr ⟨method, hMethod, hDeclared⟩

/-! ### Bounds -/

/-- A scope gives a parameter the same bound under its new name. -/
theorem bound?_eq (h : source.Renames target rename plain) (scope : TypeName) {name : String}
    (hPlain : plain name) :
    target.bound? scope (rename scope name) = source.bound? scope name := by
  unfold bound?
  rw [h.describe_eq]
  cases hSome : source.describe scope with
  | none => rfl
  | some description =>
    show ((description.parameters.map (Parameter.rename (rename scope))).find? _).map _ = _
    -- the parameter is found by its name, before and after renaming
    rw [List.find?_map, Option.map_map, ← List.head?_filter, Option.bind_some,
      ← List.head?_filter]
    have hSame : description.parameters.filter
          ((·.name == rename scope name) ∘ Parameter.rename (rename scope)) =
        description.parameters.filter (·.name == name) := by
      -- no other parameter of the scope has got the name
      refine List.filter_congr fun parameter hParameter => ?_
      rw [Bool.eq_iff_iff]
      simp only [Function.comp, Parameter.rename, beq_iff_eq]
      exact ⟨h.injective (h.plain_of_parameter hSome hParameter) hPlain, fun hName => by rw [hName]⟩
    rw [hSame]
    rfl

/-- A scope that declares a parameter under a new name has declared it under the old one. -/
theorem bound?_of_renamed (h : source.Renames target rename plain) {owner scope : TypeName}
    {name : String} (hPlain : plain name) {bound : TypeName}
    (hBound : target.bound? scope (rename owner name) = some bound) :
    source.bound? scope name = some bound := by
  have hDeclared := hBound
  unfold bound? at hDeclared
  rw [h.describe_eq] at hDeclared
  cases hSome : source.describe scope with
  | none =>
    rw [hSome] at hDeclared
    cases hDeclared
  | some description =>
    -- some parameter of the scope has the new name
    rw [hSome, Option.map_some, Option.bind_some, Option.map_eq_some_iff] at hDeclared
    obtain ⟨renamed, hFound, -⟩ := hDeclared
    obtain ⟨parameter, hParameter, rfl⟩ := List.mem_map.mp (List.mem_of_find?_eq_some hFound)
    have hName : rename scope parameter.name = rename owner name := by
      simpa [Parameter.rename] using List.find?_some hFound
    -- the scope renames it as its owner does
    obtain rfl := h.injective (h.plain_of_parameter hSome hParameter) hPlain hName
    rw [← hName, h.bound?_eq scope hPlain] at hBound
    exact hBound

/-- A parameter that all scopes rename alike has the same bound. -/
theorem parameterBound_eq (h : source.Renames target rename plain) {owner : TypeName}
    {name : String} (hPlain : plain name) {scopes : List TypeName}
    (hAlike : ∀ scope ∈ scopes, rename scope name = rename owner name) :
    target.parameterBound (rename owner name) scopes = source.parameterBound name scopes := by
  rw [parameterBound_eq_bound?, parameterBound_eq_bound?]
  refine congrArg (·.getD TypeName.object) (findSome?_congr fun scope hScope => ?_)
  rw [← hAlike scope hScope]
  exact h.bound?_eq scope hPlain

/-- **An unmixed parameter has the same bound under its new name.** -/
theorem parameterBound_eq_of_unmixed (h : source.Renames target rename plain) {owner : TypeName}
    {name : String} (hPlain : plain name) {scopes : List TypeName}
    (hUnmixed : source.Unmixed owner name scopes) :
    target.parameterBound (rename owner name) scopes = source.parameterBound name scopes := by
  -- its owner renames the parameter, and no other scope counts for its own bound
  have hOwn : target.ownBound owner (rename owner name) scopes =
      source.ownBound owner name scopes :=
    h.parameterBound_eq hPlain fun scope hScope => by
      rw [of_decide_eq_true (List.mem_filter.mp hScope).2]
  -- a scope that declares the new name has declared the old one, so nothing is mixed up
  have hUnmixed' : target.Unmixed owner (rename owner name) scopes := by
    intro scope hScope bound hBound
    rw [hOwn]
    exact hUnmixed scope hScope bound (h.bound?_of_renamed hPlain hBound)
  rw [parameterBound_of_unmixed hUnmixed, parameterBound_of_unmixed hUnmixed', hOwn]

/-! ### The course of a build -/

/-- What a method declares is erased to the same type. -/
theorem erase_eq (h : source.Renames target rename plain) {owner : TypeName} {declared : TypeExpr}
    (hDeclares : source.Declares owner declared) :
    target.erase (declared.rename (rename owner)) owner = source.erase declared owner := by
  cases declared with
  | named type => rw [TypeExpr.rename]; rfl
  | applied type arguments => rw [TypeExpr.rename]; rfl
  | parameter name =>
    rw [TypeExpr.rename]
    have hPlain : plain name := h.plain_of_declares hDeclares (by simp [TypeExpr.parameterNames])
    -- the parameter is looked up in the type that declares the method
    exact h.parameterBound_eq hPlain (by simp)

/-- **A build takes the same course**: members are erased to the same types. -/
theorem retypes (h : source.Renames target rename plain) :
    source.Retypes target (fun _ => True) (fun type => Description.rename (rename type))
      fun type => TypeExpr.rename (rename type) where
  toRedescribes := h.redescribes
  methods_eq _ _ := rfl
  fields_eq _ _ := rfl
  constructor?_eq _ _ := rfl
  erase_eq _ hDeclares := h.erase_eq hDeclares
  within_erase _ _ := trivial

/-! ### What parameters come down to -/

/-- Plain parameters of a type come down to the same, renamed. -/
def HeadsAlike (rename : TypeName → String → String) (plain : String → Prop) (type : TypeName)
    (heads heads' : String → Head) : Prop :=
  ∀ {name}, plain name →
    heads' (rename type name) = (heads name).rename rename ∧ (heads name).Passes plain

/-- Where nothing is known, parameters are left as what they are, renamed. -/
theorem headsAlike_left (type : TypeName) : HeadsAlike rename plain type (.left type) (.left type) :=
  fun hPlain => ⟨rfl, hPlain⟩

/-- What holds of parameters holds of expressions. -/
theorem HeadsAlike.head {type : TypeName} {heads heads' : String → Head}
    (hHeads : HeadsAlike rename plain type heads heads') {expr : TypeExpr}
    (hPlain : ∀ name ∈ expr.parameterNames, plain name) :
    (expr.rename (rename type)).head heads' = (expr.head heads).rename rename ∧
      (expr.head heads).Passes plain := by
  cases expr with
  | named other => rw [TypeExpr.rename]; exact ⟨rfl, trivial⟩
  | applied other arguments => rw [TypeExpr.rename]; exact ⟨rfl, trivial⟩
  | parameter name =>
    rw [TypeExpr.rename]
    exact hHeads (hPlain name (by simp [TypeExpr.parameterNames]))

/-- The same argument is supplied for a parameter, renamed as in the type that refers to it. -/
theorem argument?_eq (h : source.Renames target rename plain) (f : String → String)
    (reference : TypeExpr) (type : TypeName) {name : String} (hPlain : plain name) :
    target.argument? (reference.rename f) type (rename type name) =
      (source.argument? reference type name).map (TypeExpr.rename f) := by
  unfold argument?
  rw [h.describe_eq]
  cases hSome : source.describe type with
  | none => rfl
  | some description =>
    show (((description.parameters.map (Parameter.rename (rename type))).map Parameter.name).zip
      (reference.rename f).arguments).lookup (rename type name) = _
    have hParameters : ∀ parameter ∈ description.parameters, plain parameter.name :=
      fun parameter hParameter => h.plain_of_parameter hSome hParameter
    -- the argument stands at the place of the parameter
    rw [TypeExpr.arguments_rename]
    show _ = (((description.parameters.map Parameter.name).zip reference.arguments).lookup
      name).map (TypeExpr.rename f)
    -- the same place in both lists, parameter by parameter
    generalize description.parameters = parameters at hParameters
    generalize reference.arguments = arguments
    induction parameters generalizing arguments with
    | nil => rfl
    | cons parameter rest ih =>
      cases arguments with
      | nil => rfl
      | cons argument others =>
        simp only [List.map_cons, List.zip_cons_cons, List.lookup_cons]
        have hSame : (rename type name == (parameter.rename (rename type)).name) =
            (name == parameter.name) := by
          rw [Bool.eq_iff_iff, beq_iff_eq, beq_iff_eq]
          exact ⟨h.injective hPlain (hParameters parameter List.mem_cons_self),
            fun hName => by rw [hName]; rfl⟩
        rw [hSame]
        cases name == parameter.name with
        | true => rfl
        | false =>
          exact ih (fun other hOther => hParameters other (List.mem_cons_of_mem _ hOther)) others

/-- The argument that is supplied is one of those that the reference has. -/
theorem mem_arguments_of_argument? {reference argument : TypeExpr} {type : TypeName} {name : String}
    (h : source.argument? reference type name = some argument) : argument ∈ reference.arguments := by
  unfold argument? at h
  split at h
  · cases h
  · -- the pair that is found is one of the parameters with one of the arguments
    obtain ⟨before, after, hPairs, -⟩ := List.lookup_eq_some_iff.mp h
    have hPair : (name, argument) ∈ before ++ (name, argument) :: after :=
      List.mem_append_right _ List.mem_cons_self
    rw [← hPairs] at hPair
    exact (List.of_mem_zip hPair).2

/-- One reference keeps what parameters come down to the same. -/
theorem referenceHeads_alike (h : source.Renames target rename plain) {sub type : TypeName}
    {heads heads' : String → Head} (hHeads : HeadsAlike rename plain sub heads heads')
    {reference : TypeExpr} (hReference : ∀ name ∈ reference.parameterNames, plain name) :
    HeadsAlike rename plain type (source.referenceHeads heads reference type)
      (target.referenceHeads heads' (reference.rename (rename sub)) type) := by
  intro name hPlain
  unfold referenceHeads
  rw [h.argument?_eq (rename sub) reference type hPlain]
  cases hArgument : source.argument? reference type name with
  | none => exact ⟨rfl, hPlain⟩
  | some argument =>
    refine hHeads.head fun other hOther => hReference other ?_
    exact TypeExpr.mem_parameterNames_of_argument (mem_arguments_of_argument? hArgument) hOther

/-- Reference by reference, parameters come down to the same. -/
theorem headsAlong_alike (h : source.Renames target rename plain) {sub declaring : TypeName}
    {ascents : List Ascent} (hAscends : source.Ascends sub ascents declaring)
    {heads heads' : String → Head} (hHeads : HeadsAlike rename plain sub heads heads') :
    HeadsAlike rename plain declaring (source.headsAlong heads ascents)
      (target.headsAlong heads' (ascents.map fun ascent =>
        { ascent with reference := ascent.reference.rename (rename ascent.sub) })) := by
  unfold headsAlong
  induction hAscends generalizing heads heads' with
  | here type => exact hHeads
  | step hSub hReference _ _ ih =>
    refine ih (h.referenceHeads_alike hHeads fun name hName => ?_)
    -- the references of a description mention names in use
    exact h.plain_of_expr hSub (List.mem_append_left _ (List.mem_append_left _ hReference)) hName

/-- **Parameters come down to the same parameters**, renamed as in the types that these belong to. -/
theorem headAt_eq (h : source.Renames target rename plain) (sub declaring : TypeName) :
    HeadsAlike rename plain declaring (source.headAt sub declaring)
      (target.headAt sub declaring) := by
  unfold headAt
  rw [h.redescribes.seekAscents_eq declaring referenceLimit trivial]
  cases hFound : source.seekAscents declaring referenceLimit sub with
  | none => exact headsAlike_left declaring
  | some ascents => exact h.headsAlong_alike (ascends_of_seekAscents hFound) (headsAlike_left sub)

end Renames

end Source

end Introspect
