import Introspect.Proofs.MemberType.Ways
import Introspect.Proofs.Renaming
import Introspect.Value

/-!
# Substitution in stages

A member type may be carried down to a subtype in one go, or to a type in between first and from
there on. Both give the same, as long as every reference on the way supplies what the type that it
names asks for, and speaks of nothing but the parameters of the type in which it stands.

All of this is about one way up. The search for the bindings of a declaring type takes the first way
that it finds, round a circle as well as any other, so the ways between the three types must be the
only ones that it can find.

* `Bindings.InStages` — two bindings one after the other do what a third one does.
* `Source.parametersOf` — the type parameters that a type declares.
* `Source.Supplied` — a reference supplies an argument for every parameter.

Main results:

* `substitute_inStages`: what holds of parameters holds of the expressions that mention them.
* `member_types_compose`: member types seen through a type in between.
-/

namespace Introspect

/-! ## Expressions -/

/-- Two bindings, one after the other, make of some parameters what a third one makes of them. -/
def Bindings.InStages (whole first second : Bindings) (names : List String) : Prop :=
  ∀ name ∈ names, (TypeExpr.parameter name).substitute whole =
    ((TypeExpr.parameter name).substitute first).substitute second

namespace TypeExpr

variable {whole first second : Bindings} {names scope : List String}

mutual

/-- **What holds of parameters holds of the expressions that mention them.** -/
theorem substitute_inStages (h : whole.InStages first second names) :
    ∀ expr : TypeExpr, expr.parameterNames ⊆ names →
      expr.substitute whole = (expr.substitute first).substitute second
  | .named type, _ => by simp only [substitute]
  | .parameter name, hNames => h name (hNames (by simp [parameterNames]))
  | .applied type arguments, hNames => by
    rw [parameterNames] at hNames
    simp only [substitute]
    rw [substituteAll_inStages h arguments hNames]

/-- Several expressions are substituted in stages as each of them is. -/
theorem substituteAll_inStages (h : whole.InStages first second names) :
    ∀ exprs : List TypeExpr, parameterNamesAll exprs ⊆ names →
      substituteAll whole exprs = substituteAll second (substituteAll first exprs)
  | [], _ => by simp only [substituteAll]
  | expr :: rest, hNames => by
    rw [parameterNamesAll, List.append_subset] at hNames
    simp only [substituteAll]
    rw [substitute_inStages h expr hNames.1, substituteAll_inStages h rest hNames.2]

end

mutual

/-- What is left to mention is what the parameters leave to mention. -/
theorem parameterNames_substitute (bindings : Bindings)
    (h : ∀ name ∈ names, ((parameter name).substitute bindings).parameterNames ⊆ scope) :
    ∀ expr : TypeExpr, expr.parameterNames ⊆ names →
      (expr.substitute bindings).parameterNames ⊆ scope
  | .named type, _ => by simp [substitute, parameterNames]
  | .parameter name, hNames => h name (hNames (by simp [parameterNames]))
  | .applied type arguments, hNames => by
    rw [parameterNames] at hNames
    rw [substitute, parameterNames]
    exact parameterNamesAll_substituteAll bindings h arguments hNames

/-- What several expressions leave to mention is what each of them leaves. -/
theorem parameterNamesAll_substituteAll (bindings : Bindings)
    (h : ∀ name ∈ names, ((parameter name).substitute bindings).parameterNames ⊆ scope) :
    ∀ exprs : List TypeExpr, parameterNamesAll exprs ⊆ names →
      parameterNamesAll (substituteAll bindings exprs) ⊆ scope
  | [], _ => by simp [substituteAll, parameterNamesAll]
  | expr :: rest, hNames => by
    rw [parameterNamesAll, List.append_subset] at hNames
    rw [substituteAll, parameterNamesAll, List.append_subset]
    exact ⟨parameterNames_substitute bindings h expr hNames.1,
      parameterNamesAll_substituteAll bindings h rest hNames.2⟩

end

end TypeExpr

namespace Source

variable {V : Type} {source : Source V} {sub super goal : TypeName} {path : List Ascent}

/-! ## References -/

/-- The type parameters that a type declares; one that is not described declares none. -/
def parametersOf (source : Source V) (type : TypeName) : List String :=
  match source.describe type with
  | none => []
  | some description => description.parameters.map Parameter.name

/-- A reference supplies an argument for every parameter of the type that it names, and mentions
only parameters of the type in which it stands. -/
structure Supplied (source : Source V) (ascent : Ascent) : Prop where
  supplies : (source.parametersOf ascent.super).length ≤ ascent.reference.arguments.length
  inScope : ascent.reference.parameterNames ⊆ source.parametersOf ascent.sub

/-- Among as many values as there are keys, every key has one. -/
theorem exists_lookup_zip {name : String} :
    ∀ {names : List String} {values : List TypeExpr}, names.length ≤ values.length →
      name ∈ names → ∃ value ∈ values, (names.zip values).lookup name = some value
  | [], _, _, hName => nomatch hName
  | _ :: _, [], hLength, _ => by simp at hLength
  | other :: names, value :: values, hLength, hName => by
    -- the first key may be the one, and otherwise the others are looked through
    rw [List.zip_cons_cons, List.lookup_cons]
    cases hSame : name == other with
    | true => exact ⟨value, List.mem_cons_self, rfl⟩
    | false =>
      have hOther : name ≠ other := by simpa using hSame
      have hRest : name ∈ names := (List.mem_cons.mp hName).resolve_left hOther
      obtain ⟨found, hFound, hLookup⟩ :=
        exists_lookup_zip (Nat.le_of_succ_le_succ hLength) hRest
      exact ⟨found, List.mem_cons_of_mem _ hFound, hLookup⟩

/-- A reference that supplies enough has an argument for each parameter. -/
theorem exists_argument {ascent : Ascent} {name : String}
    (hSupplies : (source.parametersOf ascent.super).length ≤ ascent.reference.arguments.length)
    (hName : name ∈ source.parametersOf ascent.super) :
    ∃ argument ∈ ascent.reference.arguments,
      source.argument? ascent.reference ascent.super name = some argument := by
  unfold parametersOf at hName hSupplies
  unfold argument?
  cases hSuper : source.describe ascent.super with
  | none =>
    rw [hSuper] at hName
    cases hName
  | some description =>
    rw [hSuper] at hName hSupplies
    exact exists_lookup_zip hSupplies hName

/-- Behind a reference, a parameter stands for its argument as the referring type sees it. -/
theorem Supplied.exists_substitute {ascent : Ascent} (h : source.Supplied ascent) {name : String}
    (hName : name ∈ source.parametersOf ascent.super) :
    ∃ argument : TypeExpr, argument.parameterNames ⊆ source.parametersOf ascent.sub ∧
      ∀ outer, (TypeExpr.parameter name).substitute
        (source.referenceBindings outer ascent.reference ascent.super) =
          argument.substitute outer := by
  obtain ⟨argument, hArgument, hFound⟩ := exists_argument h.supplies hName
  refine ⟨argument, fun other hOther => h.inScope ?_, fun outer => ?_⟩
  · -- the argument mentions what its type declares
    exact TypeExpr.mem_parameterNames_of_argument hArgument hOther
  · -- the parameter is bound to it
    rw [TypeExpr.substitute, get?_referenceBindings, hFound]
    rfl

/-! ## Along a way up -/

/-- Bindings in stages stay so behind one more reference. -/
theorem Supplied.inStages {ascent : Ascent} (h : source.Supplied ascent)
    {whole first second : Bindings}
    (hStages : whole.InStages first second (source.parametersOf ascent.sub)) :
    (source.referenceBindings whole ascent.reference ascent.super).InStages
      (source.referenceBindings first ascent.reference ascent.super) second
      (source.parametersOf ascent.super) := by
  intro name hName
  obtain ⟨argument, hScope, hArgument⟩ := h.exists_substitute hName
  -- on both sides the argument takes the place of the parameter
  rw [hArgument, hArgument]
  exact TypeExpr.substitute_inStages hStages argument hScope

/-- Bindings in stages stay so along a whole way. -/
theorem inStages_along (hPath : source.Ascends sub path goal)
    (hSupplied : ∀ ascent ∈ path, source.Supplied ascent) {whole first second : Bindings}
    (hStages : whole.InStages first second (source.parametersOf sub)) :
    (source.bindingsAlong whole path).InStages (source.bindingsAlong first path) second
      (source.parametersOf goal) := by
  -- along the way, from the referring type to the one that is referred to
  induction hPath generalizing whole first with
  | here type => exact hStages
  | @step sub super goal _ reference ascents _ _ _ _ ih =>
    obtain ⟨hHere, hAbove⟩ := List.forall_mem_cons.mp hSupplied
    exact ih hAbove (hHere.inStages hStages)

/-- What the last type's parameters stand for mentions what the first type's parameters stood for.
-/
theorem parameterNames_along (hPath : source.Ascends sub path goal)
    (hSupplied : ∀ ascent ∈ path, source.Supplied ascent) {outer : Bindings} {scope : List String}
    (hOuter : ∀ name ∈ source.parametersOf sub,
      ((TypeExpr.parameter name).substitute outer).parameterNames ⊆ scope) :
    ∀ name ∈ source.parametersOf goal,
      ((TypeExpr.parameter name).substitute (source.bindingsAlong outer path)).parameterNames ⊆
        scope := by
  -- along the way, for whatever was bound below
  induction hPath generalizing outer with
  | here type => exact hOuter
  | @step sub super goal _ reference ascents _ _ _ _ ih =>
    obtain ⟨hHere, hAbove⟩ := List.forall_mem_cons.mp hSupplied
    refine ih hAbove fun name hName => ?_
    obtain ⟨argument, hScope, hArgument⟩ := hHere.exists_substitute hName
    rw [hArgument]
    exact TypeExpr.parameterNames_substitute outer hOuter argument hScope

/-- What is bound along a way is bound along its parts, one after the other. -/
theorem bindingsAlong_append (outer : Bindings) (lower upper : List Ascent) :
    source.bindingsAlong outer (lower ++ upper) =
      source.bindingsAlong (source.bindingsAlong outer lower) upper := by
  unfold bindingsAlong
  rw [List.foldl_append]

/-! ## Member types -/

/-- What a subtype sees is a type, never a parameter that stands alone. -/
theorem memberType_ne_parameter (declared : TypeExpr) (declaring sub : TypeName) (name : String) :
    source.memberType declared declaring sub ≠ .parameter name := by
  unfold memberType
  split
  · exact nofun
  · rename_i hOther
    exact hOther name

/-- In the type that declares it, a member is of its erased type. -/
theorem raw?_memberType_self (declared : TypeExpr) (type : TypeName) :
    (source.memberType declared type type).raw? = some (source.erase declared type) := by
  -- the type of its values is the erased one
  have hValue : (source.memberType declared type type).valueType = source.erase declared type :=
    valueType_memberType_self
  cases hSeen : source.memberType declared type type with
  | named raw => exact congrArg some (by rw [hSeen] at hValue; exact hValue)
  | parameter name => exact absurd hSeen (memberType_ne_parameter declared type type name)
  | applied raw arguments => exact congrArg some (by rw [hSeen] at hValue; exact hValue)

/-- Where no parameter is left, nothing gives way to a bound. -/
theorem memberType_eq_substitute {declared : TypeExpr} {bindings : Bindings}
    (hBindings : source.bindingsBetween sub super = some bindings)
    (hClosed : (declared.substitute bindings).parameterNames = []) :
    source.memberType declared super sub = declared.substitute bindings := by
  unfold memberType
  rw [hBindings, Option.getD_some]
  -- an expression without parameters is no parameter
  cases hSeen : declared.substitute bindings with
  | named type => rfl
  | parameter name =>
    rw [hSeen, TypeExpr.parameterNames] at hClosed
    cases hClosed
  | applied type arguments => rfl

/-- **Member types compose along the only way up.** What a type sees of a member is what it sees of
the member's type as a type in between sees it, if the ways between the three are the only ones that
a search can find, and all references on them are supplied. A type without parameters sees no
parameter at all. From everywhere a member has a type, and in the type that declares it the erased
one. -/
theorem member_types_compose (source : Source V) :
    (∀ {a b c : TypeName} {lower upper : List Ascent}, source.OnlyWay a lower b →
      source.OnlyWay b upper c → source.OnlyWay a (lower ++ upper) c →
      (∀ ascent ∈ lower ++ upper, source.Supplied ascent) →
        ∃ whole first second, source.bindingsBetween a c = some whole ∧
          source.bindingsBetween b c = some first ∧ source.bindingsBetween a b = some second ∧
          ∀ declared : TypeExpr, declared.parameterNames ⊆ source.parametersOf c →
            declared.substitute whole = (declared.substitute first).substitute second ∧
            (source.parametersOf a = [] →
              (declared.substitute whole).parameterNames = [] ∧
              source.memberType declared c a = declared.substitute whole)) ∧
      (∀ declared declaring sub name,
        source.memberType declared declaring sub ≠ .parameter name) ∧
      ∀ declared type,
        (source.memberType declared type type).raw? = some (source.erase declared type) := by
  refine ⟨?_, memberType_ne_parameter, raw?_memberType_self⟩
  intro a b c lower upper hLower hUpper hWhole hSupplied
  refine ⟨_, _, _, hWhole.bindingsBetween_eq, hUpper.bindingsBetween_eq,
    hLower.bindingsBetween_eq, ?_⟩
  intro declared hDeclared
  constructor
  · -- nothing is bound in the type in between, so what it sees is carried on as it stands
    have hBetween : (source.bindingsAlong .empty lower).InStages .empty
        (source.bindingsAlong .empty lower) (source.parametersOf b) := by
      intro name _
      rw [TypeExpr.substitute_empty]
    have hStages := inStages_along hUpper.leads
      (fun ascent hAscent => hSupplied ascent (List.mem_append_right _ hAscent)) hBetween
    rw [bindingsAlong_append]
    exact TypeExpr.substitute_inStages hStages declared hDeclared
  · -- without parameters at the bottom, none are left anywhere
    intro hPlain
    have hOuter : ∀ name ∈ source.parametersOf a,
        ((TypeExpr.parameter name).substitute .empty).parameterNames ⊆ [] := by
      rw [hPlain]
      exact fun _ hName => nomatch hName
    have hClosed := List.subset_nil.mp (TypeExpr.parameterNames_substitute _
      (parameterNames_along hWhole.leads hSupplied hOuter) declared hDeclared)
    exact ⟨hClosed, memberType_eq_substitute hWhole.bindingsBetween_eq hClosed⟩

end Source

/-! ## Samples -/

namespace Sample

/-- A class with parameters, and what it extends and implements. -/
def genericClass (name : String) (parameters : List String) (superclass? : Option TypeExpr)
    (interfaces : List TypeExpr) : Description Value :=
  { Description.plain ⟨name⟩ .concrete with
    parameters := parameters.map fun parameter => ⟨parameter, .object⟩
    superclass?, interfaces }

/-- Leaves are made of numbers, which their supertypes see as lists of numbers. -/
def leaves : Catalog Value :=
  ⟨[genericClass "Leaf" [] (some (.applied ⟨"Mid"⟩ [.named ⟨"i64"⟩])) [],
    genericClass "Mid" ["X"]
      (some (.applied ⟨"Base"⟩ [.named ⟨"String"⟩, .applied .vec [.parameter "X"]])) [],
    genericClass "Base" ["K", "V"] none [.applied ⟨"Source"⟩ [.parameter "V"]],
    genericClass "Source" ["E"] none []]⟩

/-- The references from leaves to their bases. -/
def leafToBase : List Ascent :=
  [⟨⟨"Leaf"⟩, .applied ⟨"Mid"⟩ [.named ⟨"i64"⟩], ⟨"Mid"⟩⟩,
    ⟨⟨"Mid"⟩, .applied ⟨"Base"⟩ [.named ⟨"String"⟩, .applied .vec [.parameter "X"]], ⟨"Base"⟩⟩]

/-- The reference from bases to what they draw from. -/
def baseToSource : List Ascent :=
  [⟨⟨"Base"⟩, .applied ⟨"Source"⟩ [.parameter "V"], ⟨"Source"⟩⟩]

theorem ascends_leafToBase : leaves.toSource.Ascends ⟨"Leaf"⟩ leafToBase ⟨"Base"⟩ :=
  .step rfl (.head _) rfl (.step rfl (.head _) rfl (.here _))

theorem ascends_baseToSource : leaves.toSource.Ascends ⟨"Base"⟩ baseToSource ⟨"Source"⟩ :=
  .step rfl (.head _) rfl (.here _)

/-- There is no other way from leaves up to what their bases draw from. -/
theorem eq_of_ascends_leaves {path : List Ascent}
    (h : leaves.toSource.Ascends ⟨"Leaf"⟩ path ⟨"Source"⟩) : path = leafToBase ++ baseToSource := by
  -- every class on the way has one reference, and the last one has none
  obtain ⟨_, rfl, hMid⟩ := h.of_sole ⟨"Mid"⟩ rfl rfl rfl (by decide)
  obtain ⟨_, rfl, hBase⟩ := hMid.of_sole ⟨"Base"⟩ rfl rfl rfl (by decide)
  obtain ⟨_, rfl, hSource⟩ := hBase.of_sole ⟨"Source"⟩ rfl rfl rfl (by decide)
  rw [hSource.of_none rfl rfl]
  rfl

/-- The names of the classes of a ring. -/
def ringNames : List String :=
  (List.range 63).map fun position => "R" ++ toString (position + 1)

/-- A base goes directly to the goal, but first round a ring of 64 references, which wraps its
parameter in a list; its subclass has one argument for it. -/
def ring : Catalog Value :=
  ⟨[genericClass "Top" [] (some (.applied ⟨"Base"⟩ [.named ⟨"String"⟩])) [],
    genericClass "Base" ["X"] (some (.applied ⟨"R1"⟩ [.parameter "X"]))
      [.applied ⟨"Goal"⟩ [.parameter "X"]],
    genericClass "Goal" ["T"] none []] ++
    (ringNames.zip ringNames.tail).map (fun (name, next) =>
      genericClass name ["X"] (some (.applied ⟨next⟩ [.parameter "X"])) []) ++
    [genericClass "R63" ["X"] (some (.applied ⟨"Base"⟩ [.applied .vec [.parameter "X"]])) []]⟩

/-- How many references are between a type of the ring and the goal, at least. -/
def ringRank (type : TypeName) : Nat :=
  if type = ⟨"Top"⟩ then 2 else ("Goal" :: "Base" :: ringNames.reverse).idxOf type.text

/-- The reference from the top to the base. -/
def topToBase : List Ascent :=
  [⟨⟨"Top"⟩, .applied ⟨"Base"⟩ [.named ⟨"String"⟩], ⟨"Base"⟩⟩]

/-- The reference from the base directly to the goal. -/
def baseToGoal : List Ascent :=
  [⟨⟨"Base"⟩, .applied ⟨"Goal"⟩ [.parameter "X"], ⟨"Goal"⟩⟩]

/-- A reference in the ring leads nearer to the goal by one at most. -/
theorem ringRank_le {type other : TypeName} (h : ring.toSource.Extends type other) :
    ringRank type ≤ ringRank other + 1 := by
  obtain ⟨description, hDescription, rfl, hOther⟩ := Source.exists_mem_of_extends h
  have hAll : ∀ description ∈ ring.descriptions, ∀ other ∈ description.supertypeNames,
      ringRank description.type ≤ ringRank other + 1 := by
    decide +kernel
  exact hAll description hDescription other hOther

/-- The references above leaves supply what they are asked for. -/
theorem supplied_leaves :
    ∀ ascent ∈ leafToBase ++ baseToSource, leaves.toSource.Supplied ascent := by
  intro ascent hAscent
  simp only [leafToBase, baseToSource, List.cons_append, List.nil_append, List.mem_cons,
    List.not_mem_nil, or_false] at hAscent
  rcases hAscent with rfl | rfl | rfl
  · exact ⟨by decide, by decide⟩
  · exact ⟨by decide, by decide⟩
  · exact ⟨by decide, by decide⟩

/-- The references above the top supply what they are asked for. -/
theorem supplied_ring : ∀ ascent ∈ topToBase ++ baseToGoal, ring.toSource.Supplied ascent := by
  intro ascent hAscent
  simp only [topToBase, baseToGoal, List.cons_append, List.nil_append, List.mem_cons,
    List.not_mem_nil, or_false] at hAscent
  rcases hAscent with rfl | rfl
  · exact ⟨by decide, by decide⟩
  · exact ⟨by decide, by decide⟩

/-- Going round the ring takes too long. -/
theorem eq_of_ascends_ring {path : List Ascent} (h : ring.toSource.Ascends ⟨"Top"⟩ path ⟨"Goal"⟩)
    (hShort : path.length ≤ 64) : path = topToBase ++ baseToGoal := by
  obtain ⟨rest, rfl, hBase⟩ := h.of_sole ⟨"Base"⟩ rfl rfl rfl (by decide)
  -- the base refers to the ring and to the goal
  rcases hBase.cases_of_describe rfl with ⟨-, hSame⟩ | ⟨_, hMember, _, upper, hRaw, rfl, hUpper⟩
  · exact absurd hSame (by decide)
  · have hReference := List.mem_pair.mp hMember
    rcases hReference with rfl | rfl
    · -- the first class of the ring is 64 references away from the goal
      cases hRaw
      have hRank := hUpper.rank_le fun _ _ => ringRank_le
      have hFirst : ringRank ⟨"R1"⟩ = 64 := by decide +kernel
      have hGoal : ringRank ⟨"Goal"⟩ = 0 := by decide +kernel
      simp only [List.length_cons] at hShort
      omega
    · -- the goal itself has no references
      cases hRaw
      rw [hUpper.of_none rfl rfl]
      rfl

end Sample

namespace Source

open Sample

/-- Bases see what they draw from as their second parameter, and leaves see lists of numbers. -/
theorem member_types_compose_leaves :
    leaves.toSource.parametersOf ⟨"Leaf"⟩ = [] ∧
      ∃ whole first second, leaves.toSource.bindingsBetween ⟨"Leaf"⟩ ⟨"Source"⟩ = some whole ∧
        leaves.toSource.bindingsBetween ⟨"Base"⟩ ⟨"Source"⟩ = some first ∧
        leaves.toSource.bindingsBetween ⟨"Leaf"⟩ ⟨"Base"⟩ = some second ∧
        (TypeExpr.parameter "E").substitute whole =
          ((TypeExpr.parameter "E").substitute first).substitute second ∧
        leaves.toSource.memberType (.parameter "E") ⟨"Source"⟩ ⟨"Leaf"⟩ =
          (TypeExpr.parameter "E").substitute whole ∧
        (TypeExpr.parameter "E").substitute whole = .applied .vec [.named ⟨"i64"⟩] := by
  -- the way up is the only one, and so are its parts
  obtain ⟨hLower, hUpper, hWhole⟩ := onlyWay_parts ascends_leafToBase ascends_baseToSource
    (by decide) fun _ => eq_of_ascends_leaves
  obtain ⟨whole, first, second, hAll, hFirst, hSecond, hCompose⟩ :=
    (member_types_compose leaves.toSource).1 hLower hUpper hWhole supplied_leaves
  obtain ⟨hStages, hPlain⟩ := hCompose (.parameter "E") (by decide)
  -- what is bound from the bottom to the top
  have hFound : leaves.toSource.bindingsBetween ⟨"Leaf"⟩ ⟨"Source"⟩ =
      some ⟨[("E", .applied .vec [.named ⟨"i64"⟩])]⟩ := by decide
  obtain rfl := Option.some.inj (hAll.symm.trans hFound)
  exact ⟨rfl, _, _, _, hAll, hFirst, hSecond, hStages, (hPlain rfl).2, rfl⟩

/-- Among the ways of at most 64 references there may be one only, and member types still do not
compose: the base finds its way round the ring, which is too long for the top. -/
theorem member_types_differ_round_ring :
    ∃ lower upper, ring.toSource.Ascends ⟨"Top"⟩ lower ⟨"Base"⟩ ∧
      ring.toSource.Ascends ⟨"Base"⟩ upper ⟨"Goal"⟩ ∧
      (lower ++ upper).length ≤ 64 ∧
      (∀ path, ring.toSource.Ascends ⟨"Top"⟩ path ⟨"Goal"⟩ → path.length ≤ 64 →
        path = lower ++ upper) ∧
      (∀ ascent ∈ lower ++ upper, ring.toSource.Supplied ascent) ∧
      ∃ whole first second, ring.toSource.bindingsBetween ⟨"Top"⟩ ⟨"Goal"⟩ = some whole ∧
        ring.toSource.bindingsBetween ⟨"Base"⟩ ⟨"Goal"⟩ = some first ∧
        ring.toSource.bindingsBetween ⟨"Top"⟩ ⟨"Base"⟩ = some second ∧
        (TypeExpr.parameter "T").parameterNames ⊆ ring.toSource.parametersOf ⟨"Goal"⟩ ∧
        (TypeExpr.parameter "T").substitute whole = .named ⟨"String"⟩ ∧
        ((TypeExpr.parameter "T").substitute first).substitute second =
          .applied .vec [.named ⟨"String"⟩] := by
  -- the top finds the goal behind the base, since the ring is too long for it
  have hTop : ring.toSource.bindingsBetween ⟨"Top"⟩ ⟨"Goal"⟩ =
      some ⟨[("T", .named ⟨"String"⟩)]⟩ := by decide +kernel
  -- the base finds it round the ring
  have hBase : ring.toSource.bindingsBetween ⟨"Base"⟩ ⟨"Goal"⟩ =
      some ⟨[("T", .applied .vec [.parameter "X"])]⟩ := by decide +kernel
  have hBelow : ring.toSource.bindingsBetween ⟨"Top"⟩ ⟨"Base"⟩ =
      some ⟨[("X", .named ⟨"String"⟩)]⟩ := by decide +kernel
  exact ⟨topToBase, baseToGoal, .step rfl (.head _) rfl (.here _),
    .step rfl (.tail _ (.head _)) rfl (.here _), by decide, fun _ => eq_of_ascends_ring,
    supplied_ring, _, _, _, hTop, hBase, hBelow, by decide, rfl, rfl⟩

end Source

end Introspect
