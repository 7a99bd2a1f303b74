import Introspect.Blueprint
import Introspect.Proofs.Blueprint.Settings

/-!
# Declarations that are described

A declaration has a blueprint when it is a struct with named fields and without parameters, and when
the attributes of the struct and of every field hold settings. The blueprint is what these settings
come to: it depends on which words are among them, and on the last name.

* `TypeSettings.ofSettings`, `FieldSettings.ofSettings`: what settings come to.
* `FieldsDescribed`: how declared fields are described, one after the other.

Main results:

* `ofField_eq_ok_iff`: what is described of a field.
* `fieldsDescribed_iff`, `ofDeclaration_eq_ok_iff`: what is described of a declaration.
-/

namespace Introspect

open Code Setting

/-! ## What settings come to -/

namespace TypeSettings

/-- What the settings of a type come to. -/
def ofSettings (settings : List TypeSetting) : TypeSettings where
  hasDefault := .hasDefault ∈ settings
  autoRegister := .autoRegister ∈ settings
  typeName? := lastText? settings

/-- One more setting of a type switches its word on, or takes the place of the name before. -/
theorem ofSettings_concat (settings : List TypeSetting) (setting : TypeSetting) :
    ofSettings (settings ++ [setting]) = add (ofSettings settings) setting := by
  unfold ofSettings
  rw [lastText?_concat]
  cases setting <;> simp [add, text?]

/-- What the attributes of a type say is what the settings that they hold come to. -/
theorem ofAttributes_eq_ok_iff {attributes : List Attribute} {found : TypeSettings} :
    ofAttributes attributes = .ok found ↔
      ∃ settings, Holds attributes settings ∧ ofSettings settings = found :=
  foldl_ofAttributes_eq_ok_iff ofSettings_concat

end TypeSettings

namespace FieldSettings

/-- What the settings of a field come to. -/
def ofSettings (settings : List FieldSetting) : FieldSettings where
  isSkipped := .skip ∈ settings
  isReadOnly := .readOnly ∈ settings
  name? := lastText? settings

/-- One more setting of a field switches its word on, or takes the place of the name before. -/
theorem ofSettings_concat (settings : List FieldSetting) (setting : FieldSetting) :
    ofSettings (settings ++ [setting]) = add (ofSettings settings) setting := by
  unfold ofSettings
  rw [lastText?_concat]
  cases setting <;> simp [add, text?]

/-- What the attributes of a field say is what the settings that they hold come to. -/
theorem ofAttributes_eq_ok_iff {attributes : List Attribute} {found : FieldSettings} :
    ofAttributes attributes = .ok found ↔
      ∃ settings, Holds attributes settings ∧ ofSettings settings = found :=
  foldl_ofAttributes_eq_ok_iff ofSettings_concat

end FieldSettings

/-! ## What is described -/

namespace Blueprint

variable {declaration : Declaration} {blueprint : Blueprint} {field : FieldDeclaration}
  {fields : List FieldDeclaration} {described : List FieldBlueprint}

/-- The name of a field without the marks of a raw name. -/
def plainName (ident : String) : String := String.ofList (dropRawMarks ident.toList)

/-- What is described of a field that is not skipped. -/
def describedField (field : FieldDeclaration) (settings : List FieldSetting) : FieldBlueprint where
  ident := field.ident
  name := (lastText? settings).getD (plainName field.ident)
  type := field.type.tokens
  optional? := field.type.optionArgument?
  isReadOnly := .readOnly ∈ settings

/-- What is described of a struct. -/
def describedStruct (declaration : Declaration) (settings : List TypeSetting)
    (described : List FieldBlueprint) : Blueprint where
  ident := declaration.ident
  typeName := (lastText? settings).getD declaration.ident
  hasDefault := .hasDefault ∈ settings
  autoRegister := .autoRegister ∈ settings
  fields := described

/-- A field is described by the settings that its attributes hold, unless one of them skips it. -/
theorem ofField_eq_ok_iff {answer : Option FieldBlueprint} :
    FieldBlueprint.ofField field = .ok answer ↔
      ∃ settings, Holds field.attributes settings ∧
        answer = if .skip ∈ settings then none else some (describedField field settings) := by
  unfold FieldBlueprint.ofField
  rw [bind_eq_ok_iff]
  constructor
  · rintro ⟨found, hFound, hAnswer⟩
    obtain ⟨settings, hHolds, rfl⟩ := FieldSettings.ofAttributes_eq_ok_iff.mp hFound
    refine ⟨settings, hHolds, ?_⟩
    -- the one word decides whether there is a field at all
    by_cases hSkip : .skip ∈ settings
    · simpa [FieldSettings.ofSettings, hSkip, pure, Except.pure, eq_comm] using hAnswer
    · simpa [FieldSettings.ofSettings, hSkip, pure, Except.pure, eq_comm, describedField,
        plainName] using hAnswer
  · rintro ⟨settings, hHolds, rfl⟩
    refine ⟨_, FieldSettings.ofAttributes_eq_ok_iff.mpr ⟨settings, hHolds, rfl⟩, ?_⟩
    by_cases hSkip : .skip ∈ settings
    · simp [FieldSettings.ofSettings, hSkip, pure, Except.pure]
    · simp [FieldSettings.ofSettings, hSkip, pure, Except.pure, describedField, plainName]

/-- Declared fields are described one after the other, without those that are skipped. -/
inductive FieldsDescribed : List FieldDeclaration → List FieldBlueprint → Prop where
  | nil : FieldsDescribed [] []
  | skipped {field : FieldDeclaration} {fields : List FieldDeclaration}
      {described : List FieldBlueprint} {settings : List FieldSetting}
      (hHolds : Holds field.attributes settings) (hSkip : .skip ∈ settings)
      (hRest : FieldsDescribed fields described) : FieldsDescribed (field :: fields) described
  | kept {field : FieldDeclaration} {fields : List FieldDeclaration}
      {described : List FieldBlueprint} {settings : List FieldSetting}
      (hHolds : Holds field.attributes settings) (hKept : .skip ∉ settings)
      (hRest : FieldsDescribed fields described) :
      FieldsDescribed (field :: fields) (describedField field settings :: described)

/-- Fields are described one after the other where each has an answer, and those that are skipped are
left out of the answers. -/
theorem fieldsDescribed_iff :
    FieldsDescribed fields described ↔
      ∃ answers, fields.mapM FieldBlueprint.ofField = .ok answers ∧
        answers.filterMap id = described := by
  constructor
  · -- each rule gives the answer of one more field, none for one that is skipped
    intro h
    induction h with
    | nil => exact ⟨[], rfl, rfl⟩
    | skipped hHolds hSkip _ ih =>
      obtain ⟨answers, hAnswers, rfl⟩ := ih
      have hField := ofField_eq_ok_iff.mpr ⟨_, hHolds, rfl⟩
      rw [if_pos hSkip] at hField
      exact ⟨none :: answers, mapM_cons_eq_ok_iff.mpr ⟨_, _, hField, hAnswers, rfl⟩, rfl⟩
    | kept hHolds hKept _ ih =>
      obtain ⟨answers, hAnswers, rfl⟩ := ih
      have hField := ofField_eq_ok_iff.mpr ⟨_, hHolds, rfl⟩
      rw [if_neg hKept] at hField
      exact ⟨_ :: answers, mapM_cons_eq_ok_iff.mpr ⟨_, _, hField, hAnswers, rfl⟩, rfl⟩
  · -- along the fields, which fail one and all if the first one does
    rintro ⟨answers, hAnswers, rfl⟩
    induction fields generalizing answers with
    | nil =>
      cases hAnswers
      exact .nil
    | cons field fields ih =>
      obtain ⟨answer, rest, hField, hRest, rfl⟩ := mapM_cons_eq_ok_iff.mp hAnswers
      obtain ⟨settings, hHolds, rfl⟩ := ofField_eq_ok_iff.mp hField
      by_cases hSkip : .skip ∈ settings
      · rw [if_pos hSkip]
        exact .skipped hHolds hSkip (ih rest hRest)
      · rw [if_neg hSkip]
        exact .kept hHolds hSkip (ih rest hRest)

/-- **What is described of a declaration**, and which declarations are described at all. -/
theorem ofDeclaration_eq_ok_iff :
    ofDeclaration declaration = .ok blueprint ↔
      declaration.parameters = [] ∧ ∃ fields settings described,
        declaration.body = .named fields ∧ Holds declaration.attributes settings ∧
          FieldsDescribed fields described ∧
            blueprint = describedStruct declaration settings described := by
  -- the form of a declaration is looked at before its attributes
  have hNamed : ∀ fields, namedFields declaration = .ok fields ↔
      declaration.parameters = [] ∧ declaration.body = .named fields := by
    intro fields
    unfold namedFields
    rw [← List.isEmpty_iff]
    cases declaration.parameters.isEmpty <;> cases declaration.body <;> simp
  unfold ofDeclaration
  simp only [bind_eq_ok_iff, hNamed, TypeSettings.ofAttributes_eq_ok_iff, pure, Except.pure,
    Except.ok.injEq]
  -- what is left on either side is the same but for how the fields are described
  constructor
  · rintro ⟨fields, ⟨hParameters, hBody⟩, _, ⟨settings, hHolds, rfl⟩, answers, hAnswers, rfl⟩
    exact ⟨hParameters, fields, settings, _, hBody, hHolds,
      fieldsDescribed_iff.mpr ⟨answers, hAnswers, rfl⟩, rfl⟩
  · rintro ⟨hParameters, fields, settings, described, hBody, hHolds, hDescribed, rfl⟩
    obtain ⟨answers, hAnswers, rfl⟩ := fieldsDescribed_iff.mp hDescribed
    exact ⟨fields, ⟨hParameters, hBody⟩, _, ⟨settings, hHolds, rfl⟩, answers, hAnswers, rfl⟩

end Blueprint

end Introspect
