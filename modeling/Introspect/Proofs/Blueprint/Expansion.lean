import Introspect.Blueprint.Expansion
import Introspect.Proofs.Blueprint.Acceptance
import Mathlib.Data.List.Forall2

/-!
# What expansions tell

The code for a blueprint tells the blueprint, as far as it matters to the code: the type, its name,
its two flags, and of every field its identifier, the name of the property, the type of the values,
whether the field may be absent, and whether it is only read. Each piece of code lies between trees
that are known, or in a group of its own, and the pieces for the fields are calls of members, which
can be told apart from the end of an expression.

* `calls`: the calls of members that an expression ends with.
* `FieldBlueprint.traits`: what matters of a field.

Main results:

* `fieldArguments_eq_iff`, `information_eq_iff`: what is told by the code for a field, and by that
  for all fields.
* `expand_eq_iff`: two blueprints have the same code when they agree in what matters.
* `expansion_faithful`: that, and what the code for a declaration does for each field.
-/

namespace Introspect

open Code

/-- What matters of a field: its identifier, the name of the property, the type of the values, and
whether the field may be absent and is only read. -/
def FieldBlueprint.traits (field : FieldBlueprint) : String × String × List Tree × Bool × Bool :=
  (field.ident, field.name, field.valueType, field.optional?.isSome, field.isReadOnly)

namespace Expansion

variable {exports bound result parameters body other rest more : List Tree} {name : String}

/-! ## Pieces -/

/-- An implementation tells what it is for and what its body is, and where it ends. -/
theorem implementation_append_inj {one two : String} :
    implementation bound one body ++ rest = implementation bound two other ++ more ↔
      one = two ∧ body = other ∧ rest = more := by
  simp [implementation]

/-- A constant tells its body, and where it ends. -/
theorem constant_append_inj :
    constant name result body ++ rest = constant name result other ++ more ↔
      body = other ∧ rest = more := by
  simp [constant]

/-- A procedure tells its body. -/
theorem procedure_inj :
    procedure name parameters body = procedure name parameters other ↔ body = other := by
  simp [procedure]

/-- A quoted text tells the text. -/
theorem quoted_inj {one two : String} : quoted one = quoted two ↔ one = two := by
  unfold quoted
  rw [Tree.literal.injEq, quotedLiteral_injective.eq_iff]

/-- A type between brackets, as it meets a bound, is told. -/
theorem asBound_append_inj {one two : List Tree} :
    asBound one bound ++ rest = asBound two bound ++ rest ↔ one = two := by
  simp [asBound, angled]

/-! ## Calls of members -/

/-- The calls at the end of an expression that is read from its end, the last one first. -/
def callsBack : List Tree → List (String × List Tree)
  | .group .round arguments :: .word name :: .mark '.' false :: before =>
    (name, arguments) :: callsBack before
  | _ => []

/-- The calls of members that an expression ends with, in order. -/
def calls (trees : List Tree) : List (String × List Tree) := (callsBack trees.reverse).reverse

/-- A call of a member is the last of the calls that an expression ends with. -/
theorem calls_append_member (trees : List Tree) (name : String) (arguments : List Tree) :
    calls (trees ++ member name arguments) = calls trees ++ [(name, arguments)] := by
  simp [calls, callsBack, member, lone]

/-- A call by a path is no call of a member. -/
theorem calls_at (path : List Tree) (words : List String) (word : String) (arguments : List Tree) :
    calls (at_ path (words ++ [word]) ++ [.group .round arguments]) = [] := by
  simp [calls, callsBack, at_, colons]

/-! ## Fields -/

/-- What the code for a field is applied to: how the property is described. -/
def fieldArguments (exports : List Tree) (field : FieldBlueprint) : List Tree :=
  fieldHead exports field ++
    member "with_reader" (accessBody exports (readFunction field) field [lone '&']) ++
    if field.isReadOnly then []
    else
      member "with_writer" (accessBody exports (writeFunction field) field [lone '&', .word "mut"])

section Field

variable {one two : FieldBlueprint}

/-- What uses a field tells the function that is used, the type of the values and the field. -/
theorem accessBody_inj {first second : String} {borrow : List Tree} :
    accessBody exports first one borrow = accessBody exports second two borrow ↔
      first = second ∧ one.valueType = two.valueType ∧ one.ident = two.ident := by
  constructor
  · intro h
    -- the piece is made of a fixed front, the type and a fixed end
    simp only [accessBody, at_, angled, colons, List.flatMap_cons, List.flatMap_nil,
      List.append_assoc, List.cons_append, List.nil_append, List.append_nil,
      List.append_cancel_left_eq, List.cons.injEq, Tree.word.injEq, true_and] at h
    obtain ⟨hFunction, hRest⟩ := h
    -- a type may be any trees, but the bracket and the group after it are always two
    obtain ⟨hType, hEnd⟩ := List.append_inj' hRest rfl
    simp only [List.cons.injEq, Tree.group.injEq, List.append_cancel_left_eq, Tree.word.injEq,
      true_and, and_true] at hEnd
    exact ⟨hFunction, hType, hEnd⟩
  · rintro ⟨rfl, hType, hIdent⟩
    unfold accessBody
    rw [hType, hIdent]

/-- The beginning of the code for a field tells the name of the property and the type of the values.
-/
theorem fieldHead_inj :
    fieldHead exports one = fieldHead exports two ↔
      one.name = two.name ∧ one.valueType = two.valueType := by
  unfold fieldHead
  simp only [List.append_cancel_left_eq, List.cons.injEq, Tree.group.injEq, true_and, and_true,
    List.cons_append, List.nil_append, quoted_inj, List.append_assoc, asBound_append_inj]

/-- The function that reads a field tells whether the field may be absent. -/
theorem readFunction_inj :
    readFunction one = readFunction two ↔ one.optional?.isSome = two.optional?.isSome := by
  unfold readFunction
  cases one.optional?.isSome <;> cases two.optional?.isSome <;> simp

/-- The calls in the code for a field: one for reading, and one for writing if the field is not only
read. -/
theorem calls_fieldArguments (exports : List Tree) (field : FieldBlueprint) :
    calls (fieldArguments exports field) =
      ("with_reader", accessBody exports (readFunction field) field [lone '&']) ::
        if field.isReadOnly then []
        else [("with_writer",
          accessBody exports (writeFunction field) field [lone '&', .word "mut"])] := by
  -- the code begins with a call by a path, so only the members behind it are counted
  have hHead : calls (fieldHead exports field) = [] := calls_at exports ["FieldInfo"] "new" _
  unfold fieldArguments
  cases field.isReadOnly <;> simp [-List.append_assoc, calls_append_member, hHead]

/-- **The code for a field tells what matters of it**, and nothing else. -/
theorem fieldArguments_eq_iff :
    fieldArguments exports one = fieldArguments exports two ↔ one.traits = two.traits := by
  constructor
  · intro h
    have hCalls := congrArg calls h
    rw [calls_fieldArguments, calls_fieldArguments, List.cons.injEq, Prod.mk.injEq] at hCalls
    obtain ⟨⟨-, hReader⟩, hWriter⟩ := hCalls
    obtain ⟨hFunction, hType, hIdent⟩ := accessBody_inj.mp hReader
    have hOptional := readFunction_inj.mp hFunction
    -- there is a call for writing on both sides or on neither
    have hReadOnly : one.isReadOnly = two.isReadOnly := by
      cases hOne : one.isReadOnly <;> cases hTwo : two.isReadOnly <;> simp [hOne, hTwo] at hWriter ⊢
    -- what comes before the calls is told by its length, which does not depend on the field
    have hHead : fieldHead exports one = fieldHead exports two := by
      unfold fieldArguments at h
      rw [List.append_assoc, List.append_assoc] at h
      exact (List.append_inj h (by simp [fieldHead])).1
    unfold FieldBlueprint.traits
    rw [hIdent, (fieldHead_inj.mp hHead).1, hType, hOptional, hReadOnly]
  · -- and whatever else a field has is not looked at
    intro h
    simp only [FieldBlueprint.traits, Prod.mk.injEq] at h
    obtain ⟨hIdent, hName, hType, hOptional, hReadOnly⟩ := h
    have hWrite : writeFunction one = writeFunction two := by
      unfold writeFunction
      rw [hOptional]
    unfold fieldArguments
    rw [fieldHead_inj.mpr ⟨hName, hType⟩, hReadOnly, hWrite, readFunction_inj.mpr hOptional,
      accessBody_inj.mpr ⟨rfl, hType, hIdent⟩, accessBody_inj.mpr ⟨rfl, hType, hIdent⟩]

end Field

/-! ## Types -/

/-- How a type is described: its name, and what is called for its fields and its default. -/
def information (exports : List Tree) (blueprint : Blueprint) : List Tree :=
  at_ exports ["TypeInfo", "class"] ++ [.group .round (ownName exports)] ++
    blueprint.fields.flatMap (fieldTokens exports) ++ constructorTokens exports blueprint

/-- How the types of the values of a type's fields are registered. -/
def dependencies (exports : List Tree) (blueprint : Blueprint) : List Tree :=
  [.word "let", .word "_", lone '=', lone '&', .word "catalog", lone ';'] ++
    blueprint.fields.flatMap (dependencyTokens exports)

/-- What the calls for the fields are applied to, among the calls that an expression ends with. -/
def fieldCalls (trees : List Tree) : List (List Tree) :=
  (calls trees).filterMap fun (name, arguments) =>
    if name = "with_field" then some arguments else none

/-- The code for fields is a call for each of them, in order. -/
theorem calls_append_fields (trees : List Tree) (fields : List FieldBlueprint) :
    calls (trees ++ fields.flatMap (fieldTokens exports)) =
      calls trees ++ fields.map fun field => ("with_field", fieldArguments exports field) := by
  -- by the fields, each of which puts one call behind the expression that it continues
  induction fields generalizing trees with
  | nil => simp
  | cons field fields ih =>
    have hField : fieldTokens exports field = member "with_field" (fieldArguments exports field) :=
      rfl
    rw [List.flatMap_cons, ← List.append_assoc, ih, hField, calls_append_member]
    simp

/-- **The calls that describe a type**: one for each field, in order, and one for the default. -/
theorem calls_information (exports : List Tree) (blueprint : Blueprint) :
    calls (information exports blueprint) =
      (blueprint.fields.map fun field => ("with_field", fieldArguments exports field)) ++
        if blueprint.hasDefault then
          [("with_default_constructor",
            at_ exports ["default_factory"] ++ colons ++ angled [.word "Self"] ++
              [.group .round []])]
        else [] := by
  have hClass : calls (at_ exports ["TypeInfo", "class"] ++ [.group .round (ownName exports)]) =
      [] := calls_at exports ["TypeInfo"] "class" _
  unfold information constructorTokens
  cases blueprint.hasDefault <;>
    simp [-List.append_assoc, calls_append_member, calls_append_fields, hClass]

/-- What the calls for the fields are applied to is the code for the fields, in order. -/
theorem fieldCalls_information (exports : List Tree) (blueprint : Blueprint) :
    fieldCalls (information exports blueprint) =
      blueprint.fields.map (fieldArguments exports) := by
  unfold fieldCalls
  -- the call for the default is no call for a field
  rw [calls_information, List.filterMap_append]
  cases blueprint.hasDefault <;> simp [List.filterMap_map]

/-- Two functions that tell the same apart tell the same lists apart. -/
theorem map_eq_map_iff_of_iff {α β γ : Type} {f : α → β} {g : α → γ}
    (h : ∀ a b, f a = f b ↔ g a = g b) {as bs : List α} :
    as.map f = bs.map f ↔ as.map g = bs.map g := by
  -- by both lists, which have to be of one length on either side
  induction as generalizing bs with
  | nil => simp
  | cons a as ih => cases bs <;> simp [h, ih]

variable {one other : Blueprint}

/-- What describes a type tells whether it has a default, and what matters of its fields. -/
theorem information_eq_iff :
    information exports one = information exports other ↔
      one.hasDefault = other.hasDefault ∧
        one.fields.map FieldBlueprint.traits = other.fields.map FieldBlueprint.traits := by
  rw [← map_eq_map_iff_of_iff fun _ _ => @fieldArguments_eq_iff exports _ _]
  constructor
  · intro h
    have hFields := congrArg fieldCalls h
    rw [fieldCalls_information, fieldCalls_information] at hFields
    -- one more call than there are fields is the call for the default
    have hCalls := congrArg (List.length ∘ calls) h
    have hLength := congrArg List.length hFields
    simp only [Function.comp_apply, calls_information, List.length_append, List.length_map]
      at hCalls hLength
    refine ⟨?_, hFields⟩
    rw [hLength, Nat.add_left_cancel_iff] at hCalls
    cases hOne : one.hasDefault <;> cases hOther : other.hasDefault <;>
      simp [hOne, hOther] at hCalls ⊢
  · rintro ⟨hDefault, hFields⟩
    -- the code for the fields is made of what their calls are applied to
    have hTokens : ∀ fields : List FieldBlueprint, fields.flatMap (fieldTokens exports) =
        (fields.map (fieldArguments exports)).flatMap (member "with_field") := by
      intro fields
      rw [List.flatMap_map]
      rfl
    unfold information constructorTokens
    rw [hTokens, hTokens, hFields, hDefault]

/-- What registers types depends on the types of the values only. -/
theorem dependencies_congr
    (h : one.fields.map FieldBlueprint.traits = other.fields.map FieldBlueprint.traits) :
    dependencies exports one = dependencies exports other := by
  -- of a field no more than the type of its values is used
  have hTokens : ∀ fields : List FieldBlueprint, fields.flatMap (dependencyTokens exports) =
      (fields.map FieldBlueprint.traits).flatMap fun (_, _, valueType, _, _) =>
        asBound valueType (at_ exports ["TypeOf"]) ++ colons ++
          [.word "register_type", .group .round [.word "catalog"], lone ';'] := by
    intro fields
    rw [List.flatMap_map]
    rfl
  unfold dependencies
  rw [hTokens, hTokens, h]

/-- What registers a type tells whether there is anything to register. -/
theorem registrationTokens_eq_iff (hIdent : one.ident = other.ident) :
    registrationTokens exports one = registrationTokens exports other ↔
      one.autoRegister = other.autoRegister := by
  unfold registrationTokens
  rw [hIdent]
  cases one.autoRegister <;> cases other.autoRegister <;> simp

/-- The code by which a type is described, in its parts. -/
theorem describedTokens_eq (exports : List Tree) (blueprint : Blueprint) :
    describedTokens exports blueprint =
      implementation (at_ exports ["Described"]) blueprint.ident
        (inlined ++
          (constant "ty" (at_ exports ["Type"])
            (at_ exports ["Type", "from_static"] ++ [.group .round [quoted blueprint.typeName]]) ++
          (constant "type_info" (at_ exports ["TypeInfo"]) (information exports blueprint) ++
          procedure "register_dependencies" (catalogParameter exports)
            (dependencies exports blueprint)))) := by
  simp only [describedTokens, information, dependencies, List.append_assoc]

end Expansion

namespace Blueprint

open Expansion Setting

variable {one other : Blueprint}

/-- **Two blueprints have the same code when they agree in what matters.** -/
theorem expand_eq_iff {path : List Tree} :
    one.expand path = other.expand path ↔
      one.ident = other.ident ∧ one.typeName = other.typeName ∧
        one.hasDefault = other.hasDefault ∧ one.autoRegister = other.autoRegister ∧
          one.fields.map FieldBlueprint.traits = other.fields.map FieldBlueprint.traits := by
  unfold expand typeOfTokens
  -- part by part, as each tells what it was made for
  simp only [describedTokens_eq, List.append_assoc, implementation_append_inj,
    constant_append_inj, procedure_inj, List.append_cancel_left_eq, information_eq_iff,
    List.cons.injEq, Tree.group.injEq, quoted_inj, true_and, and_true]
  constructor
  · rintro ⟨hIdent, -, ⟨hName, ⟨hDefault, hFields⟩, -⟩, hRegistration⟩
    exact ⟨hIdent, hName, hDefault, (registrationTokens_eq_iff hIdent).mp hRegistration, hFields⟩
  · rintro ⟨hIdent, hName, hDefault, hRegister, hFields⟩
    exact ⟨hIdent, hIdent, ⟨hName, ⟨hDefault, hFields⟩, dependencies_congr hFields⟩,
      (registrationTokens_eq_iff hIdent).mpr hRegister⟩

/-- The path to what the code names in the library. -/
def exportsAt (path : List Tree) : List Tree := at_ path ["__macro_exports"]

/-- The arguments of a call describe a field: they begin with the name of the property and the type
of its values; a reader follows, and a writer unless the field is only read; and both are the ones
for fields that may be absent if that is what the field is. -/
structure DescribesField (exports : List Tree) (field : FieldBlueprint) (arguments : List Tree) :
    Prop where
  head : fieldHead exports field <+: arguments
  accesses : calls arguments =
    ("with_reader", accessBody exports
      (if field.optional?.isSome then "read_optional_field" else "read_field") field [lone '&']) ::
      if field.isReadOnly then []
      else [("with_writer", accessBody exports
        (if field.optional?.isSome then "write_optional_field" else "write_field") field
        [lone '&', .word "mut"])]

/-- The code for a field describes it. -/
theorem describesField_fieldArguments (exports : List Tree) (field : FieldBlueprint) :
    DescribesField exports field (fieldArguments exports field) where
  head := by
    unfold fieldArguments
    rw [List.append_assoc]
    exact List.prefix_append _ _
  accesses := calls_fieldArguments exports field

/-- The calls for fields in the code for a type are those of its fields, in order. -/
theorem forall₂_describesField (exports : List Tree) (blueprint : Blueprint) :
    List.Forall₂ (DescribesField exports) blueprint.fields
      (fieldCalls (information exports blueprint)) := by
  rw [fieldCalls_information, List.forall₂_map_right_iff, List.forall₂_same]
  exact fun field _ => describesField_fieldArguments exports field

/--
**Expansions tell blueprints apart, and nothing is mixed up in them.** With one path for the
library, two blueprints have the same code exactly when they agree in the identifier, the name of
the type, its two flags, and the list of what matters of the fields. And in the code for a
declaration the described fields stand in the order of the declaration, each in one call that
describes it and in one statement that registers the type of its values.
-/
theorem expansion_faithful :
    (∀ {one other : Blueprint} {path : List Tree}, one.expand path = other.expand path ↔
      one.ident = other.ident ∧ one.typeName = other.typeName ∧
        one.hasDefault = other.hasDefault ∧ one.autoRegister = other.autoRegister ∧
          one.fields.map FieldBlueprint.traits = other.fields.map FieldBlueprint.traits) ∧
    ∀ {declaration : Declaration} {blueprint : Blueprint} (path : List Tree),
      ofDeclaration declaration = .ok blueprint →
      ∃ fields, declaration.body = .named fields ∧ FieldsDescribed fields blueprint.fields ∧
        ∃ described registered,
          blueprint.expand path =
            typeOfTokens (exportsAt path) blueprint ++
              implementation (at_ (exportsAt path) ["Described"]) blueprint.ident
                (inlined ++
                  (constant "ty" (at_ (exportsAt path) ["Type"])
                    (at_ (exportsAt path) ["Type", "from_static"] ++
                      [.group .round [quoted blueprint.typeName]]) ++
                  (constant "type_info" (at_ (exportsAt path) ["TypeInfo"]) described ++
                  procedure "register_dependencies" (catalogParameter (exportsAt path))
                    ([.word "let", .word "_", lone '=', lone '&', .word "catalog", lone ';'] ++
                      registered.flatten)))) ++
              registrationTokens (exportsAt path) blueprint ∧
          List.Forall₂ (DescribesField (exportsAt path)) blueprint.fields (fieldCalls described) ∧
          List.Forall₂ (fun field statement => statement =
              asBound field.valueType (at_ (exportsAt path) ["TypeOf"]) ++ colons ++
                [.word "register_type", .group .round [.word "catalog"], lone ';'])
            blueprint.fields registered := by
  refine ⟨expand_eq_iff, ?_⟩
  intro declaration blueprint path h
  -- the code is made of the described fields in their order, and nothing moves them
  obtain ⟨-, fields, settings, described, hBody, -, hDescribed, rfl⟩ :=
    ofDeclaration_eq_ok_iff.mp h
  refine ⟨fields, hBody, hDescribed, information (exportsAt path) _,
    described.map (dependencyTokens (exportsAt path)), ?_, forall₂_describesField _ _, ?_⟩
  · -- the statements that register types are those of the fields, one behind the other
    rw [← List.flatMap_def]
    show _ ++ describedTokens (exportsAt path) _ ++ _ = _
    rw [describedTokens_eq]
    rfl
  · -- each is the statement of its field, as it stands
    show List.Forall₂ _ described _
    rw [List.forall₂_map_right_iff, List.forall₂_same]
    exact fun field _ => rfl

namespace Sample

/-- A field for a text that may be absent, and is only read. -/
def nickname : FieldDeclaration where
  attributes := [inAttribute [FieldSetting.readOnly]]
  visibility := []
  ident := "nickname"
  type := ⟨[.word "Option", lone '<', .word "String", lone '>'],
    .path ⟨[.word "Option", lone '<', .word "String", lone '>'], false, ["Option"], true,
      .angled (some [.word "String"])⟩⟩

/-- A field for a number, with the given settings. -/
def numberField (settings : List FieldSetting) (ident : String) : FieldDeclaration :=
  ⟨[inAttribute settings], [], ident,
    ⟨[.word "u8"], .path ⟨[.word "u8"], false, ["u8"], true, .bare⟩⟩⟩

/-- A type with a field that is only read, one that is skipped, and one under another name. -/
def guest : Declaration where
  attributes := []
  visibility := []
  ident := "Guest"
  parameters := []
  conditions := []
  body := .named [nickname, numberField [.skip] "visits", numberField [.rename "years"] "age"]

/-- What is described of that type. -/
def guestBlueprint : Blueprint :=
  describedStruct guest []
    [describedField nickname [.readOnly],
      describedField (numberField [.rename "years"] "age") [.rename "years"]]

/-- Of the three fields, the two that are not skipped are described. -/
theorem ofDeclaration_guest : ofDeclaration guest = .ok guestBlueprint := by
  have hNickname : Holds nickname.attributes [FieldSetting.readOnly] :=
    holds_inAttribute fun _ _ => trivial
  have hVisits : Holds (numberField [.skip] "visits").attributes [FieldSetting.skip] :=
    holds_inAttribute fun _ _ => trivial
  have hAge : Holds (numberField [.rename "years"] "age").attributes
      [FieldSetting.rename "years"] :=
    holds_inAttribute fun _ _ => trivial
  exact ofDeclaration_eq_ok_iff.mpr ⟨rfl, _, [], _, rfl, .nil,
    .kept hNickname (by decide) (.skipped hVisits (by decide) (.kept hAge (by decide) .nil)), rfl⟩

end Sample

/-- In the code for the sample there are two calls, in the order of the fields. The first describes a
field that is only read, the second one that is written as well, and the types of their values are
registered in the same order. The code for a type that registers itself besides is another, and so
is the code for the fields the other way round. -/
theorem expansion_faithful_guest :
    ∃ blueprint described nickname years registered,
      ofDeclaration Sample.guest = .ok blueprint ∧
      blueprint.fields.map (·.name) = ["nickname", "years"] ∧
      blueprint.expand [] ≠ { blueprint with autoRegister := true }.expand [] ∧
      blueprint.expand [] ≠ { blueprint with fields := blueprint.fields.reverse }.expand [] ∧
      fieldCalls described = [nickname, years] ∧
      (calls nickname).map Prod.fst = ["with_reader"] ∧
      (calls years).map Prod.fst = ["with_reader", "with_writer"] ∧
      registered = [Sample.nickname.type.tokens, [.word "u8"]].map fun type =>
        asBound type (at_ (exportsAt []) ["TypeOf"]) ++ colons ++
          [.word "register_type", .group .round [.word "catalog"], lone ';'] := by
  obtain ⟨hSame, hCode⟩ := expansion_faithful
  obtain ⟨_, -, -, described, registered, -, hCalls, hRegistered⟩ :=
    hCode [] Sample.ofDeclaration_guest
  -- two fields are described, so there are two calls and two statements
  obtain ⟨nickname, _, hNickname, hOther, hDescribed⟩ := List.forall₂_cons_left_iff.mp hCalls
  obtain ⟨years, _, hYears, hNone, rfl⟩ := List.forall₂_cons_left_iff.mp hOther
  cases hNone
  obtain ⟨_, _, rfl, hOther, rfl⟩ := List.forall₂_cons_left_iff.mp hRegistered
  obtain ⟨_, _, rfl, hNone, rfl⟩ := List.forall₂_cons_left_iff.mp hOther
  cases hNone
  refine ⟨_, described, nickname, years, _, Sample.ofDeclaration_guest, rfl, ?_, ?_, hDescribed,
    ?_, ?_, rfl⟩
  · -- the blueprints differ in whether they register themselves
    intro hExpand
    obtain ⟨-, -, -, hRegister, -⟩ := hSame.mp hExpand
    cases hRegister
  · intro hExpand
    obtain ⟨-, -, -, -, hFields⟩ := hSame.mp hExpand
    have hIdents : ["nickname", "age"] = ["age", "nickname"] :=
      congrArg (List.map Prod.fst) hFields
    exact absurd hIdents (by decide)
  · rw [hNickname.accesses]
    rfl
  · rw [hYears.accesses]
    rfl

end Blueprint

end Introspect
