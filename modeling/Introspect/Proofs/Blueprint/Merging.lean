import Introspect.Blueprint.Expansion
import Introspect.Proofs.Blueprint.Acceptance

/-!
# Declarations that come to the same

The settings of a declaration may stand in one attribute or in several, in any order and more than
once, and there may be other attributes, a visibility and conditions besides, and fields that are
skipped. A declaration is merged when nothing of that is left: each item has one attribute with one
setting of each kind, and no field is skipped. A blueprint sees no more of a declaration than what
is left of it then.

* `FieldsMerge`, `MergesTo`: fields and a declaration, and what they are merged to, in one way only.

Main results:

* `ofDeclaration_eq_ok_iff_of_mergesTo`: a declaration is described as what it is merged to.
* `described_as_merged`: what is described, which declarations are the same to it, and that no
  wrong attribute is passed over.
-/

namespace Introspect.Blueprint

open Code Setting

variable {one other declaration merged : Declaration} {blueprint : Blueprint}
  {field : FieldDeclaration} {fields mergedFields : List FieldDeclaration}
  {described : List FieldBlueprint}

/-! ## Merging -/

/-- A field with one attribute, with the merged settings, and nothing else but its name and type. -/
def mergedField (field : FieldDeclaration) (settings : List FieldSetting) : FieldDeclaration :=
  { field with attributes := [inAttribute (merge settings)], visibility := [] }

/-- A struct with one attribute, with the merged settings, and nothing else but its name and
fields. -/
def mergedStruct (declaration : Declaration) (settings : List TypeSetting)
    (fields : List FieldDeclaration) : Declaration :=
  { declaration with
    attributes := [inAttribute (merge settings)]
    visibility := []
    conditions := []
    body := .named fields }

/-- Fields are merged when those that are skipped are gone, and all others are merged. -/
inductive FieldsMerge : List FieldDeclaration → List FieldDeclaration → Prop where
  | nil : FieldsMerge [] []
  | skipped {field : FieldDeclaration} {fields merged : List FieldDeclaration}
      {settings : List FieldSetting} (hHolds : Holds field.attributes settings)
      (hSkip : .skip ∈ settings) (hRest : FieldsMerge fields merged) :
      FieldsMerge (field :: fields) merged
  | kept {field : FieldDeclaration} {fields merged : List FieldDeclaration}
      {settings : List FieldSetting} (hHolds : Holds field.attributes settings)
      (hKept : .skip ∉ settings) (hRest : FieldsMerge fields merged) :
      FieldsMerge (field :: fields) (mergedField field settings :: merged)

/-- A struct without parameters is merged when its fields are, and its attributes. -/
inductive MergesTo : Declaration → Declaration → Prop where
  | merge {declaration : Declaration} {fields merged : List FieldDeclaration}
      {settings : List TypeSetting} (hParameters : declaration.parameters = [])
      (hHolds : Holds declaration.attributes settings) (hBody : declaration.body = .named fields)
      (hFields : FieldsMerge fields merged) :
      MergesTo declaration (mergedStruct declaration settings merged)

/-- Fields are merged in one way. -/
theorem FieldsMerge.unique {others : List FieldDeclaration} (h : FieldsMerge fields mergedFields)
    (hOthers : FieldsMerge fields others) : mergedFields = others := by
  -- what the attributes hold says of a field on both sides whether it is skipped
  induction h generalizing others with
  | nil =>
    cases hOthers
    rfl
  | skipped hHolds hSkip _ ih =>
    obtain _ | ⟨-, -, hRest⟩ | ⟨hAlso, hKept, -⟩ := hOthers
    · exact ih hRest
    · cases hAlso.unique hHolds
      exact absurd hSkip hKept
  | kept hHolds hKept _ ih =>
    obtain _ | ⟨hAlso, hSkip, -⟩ | ⟨hAlso, -, hRest⟩ := hOthers
    · cases hAlso.unique hHolds
      exact absurd hSkip hKept
    · rw [hAlso.unique hHolds, ih hRest]

/-- A declaration is merged in one way, so that what it is merged to tells it from others. -/
theorem MergesTo.unique (h : MergesTo declaration one) (hOther : MergesTo declaration other) :
    one = other := by
  obtain ⟨-, hHolds, hBody, hFields⟩ := h
  obtain ⟨-, hAlso, hAgain, hFieldsToo⟩ := hOther
  cases hBody.symm.trans hAgain
  rw [hAlso.unique hHolds, hFields.unique hFieldsToo]

/-- The attribute of what is merged holds the merged settings. -/
theorem holds_merge {α : Type} [Setting α] [DecidableEq α] {attributes : List Attribute}
    {settings : List α} (h : Holds attributes settings) :
    Holds [inAttribute (merge settings)] (merge settings) :=
  holds_inAttribute fun _ hMem => h.isAllowed (mem_of_mem_merge hMem)

/-! ## What is described -/

theorem skip_mem_merge_iff {settings : List FieldSetting} :
    .skip ∈ merge settings ↔ .skip ∈ settings :=
  mem_merge_iff rfl

/-- A field is described alike by its settings and by those that they are merged to. -/
theorem describedField_merge (field : FieldDeclaration) (settings : List FieldSetting) :
    describedField (mergedField field settings) (merge settings) =
      describedField field settings := by
  have hReadOnly : .readOnly ∈ merge settings ↔ .readOnly ∈ settings := mem_merge_iff rfl
  unfold describedField
  rw [lastText?_merge]
  simp only [hReadOnly, mergedField]

/-- A struct is described alike by its settings and by those that they are merged to. -/
theorem describedStruct_merge (declaration : Declaration) (settings : List TypeSetting)
    (fields : List FieldDeclaration) (described : List FieldBlueprint) :
    describedStruct (mergedStruct declaration settings fields) (merge settings) described =
      describedStruct declaration settings described := by
  have hDefault : .hasDefault ∈ merge settings ↔ .hasDefault ∈ settings := mem_merge_iff rfl
  have hRegister : .autoRegister ∈ merge settings ↔ .autoRegister ∈ settings := mem_merge_iff rfl
  unfold describedStruct
  rw [lastText?_merge]
  simp only [hDefault, hRegister, mergedStruct]

/-- Fields are described as what they are merged to. -/
theorem FieldsMerge.described_iff (h : FieldsMerge fields mergedFields) :
    FieldsDescribed fields described ↔ FieldsDescribed mergedFields described := by
  -- attributes hold one list of settings, which says of both sides whether the field is skipped
  induction h generalizing described with
  | nil => rfl
  | skipped hHolds hSkip _ ih =>
    rw [← ih]
    constructor
    · rintro (_ | ⟨-, -, hRest⟩ | ⟨hAlso, hKept, -⟩)
      · exact hRest
      · -- the field cannot be kept as well: the same attributes say that it is skipped
        cases hAlso.unique hHolds
        exact absurd hSkip hKept
    · exact .skipped hHolds hSkip
  | @kept field fields merged settings hHolds hKept _ ih =>
    have hMerged : Holds (mergedField field settings).attributes (merge settings) :=
      holds_merge hHolds
    have hSame := describedField_merge field settings
    constructor
    · rintro (_ | ⟨hAlso, hSkip, -⟩ | ⟨hAlso, -, hRest⟩)
      · cases hAlso.unique hHolds
        exact absurd hSkip hKept
      · cases hAlso.unique hHolds
        rw [← hSame]
        exact .kept hMerged (mt skip_mem_merge_iff.mp hKept) (ih.mp hRest)
    · rintro (_ | ⟨hAlso, hSkip, -⟩ | ⟨hAlso, -, hRest⟩)
      · cases hAlso.unique hMerged
        exact absurd (skip_mem_merge_iff.mp hSkip) hKept
      · cases hAlso.unique hMerged
        rw [hSame]
        exact .kept hHolds hKept (ih.mpr hRest)

/-- **A declaration is described as what it is merged to.** -/
theorem ofDeclaration_eq_ok_iff_of_mergesTo (h : MergesTo declaration merged) :
    ofDeclaration declaration = .ok blueprint ↔ ofDeclaration merged = .ok blueprint := by
  obtain ⟨hParameters, hHolds, hBody, hFields⟩ := h
  rename_i fields mergedFields settings
  have hMerged : Holds (mergedStruct declaration settings mergedFields).attributes
      (merge settings) := holds_merge hHolds
  have hSame := describedStruct_merge declaration settings mergedFields
  simp only [ofDeclaration_eq_ok_iff, hBody]
  constructor
  · rintro ⟨-, _, settings, described, ⟨⟩, hAlso, hDescribed, rfl⟩
    cases hAlso.unique hHolds
    exact ⟨hParameters, _, _, described, rfl, hMerged, hFields.described_iff.mp hDescribed,
      (hSame described).symm⟩
  · rintro ⟨-, _, settings, described, ⟨⟩, hAlso, hDescribed, rfl⟩
    cases hAlso.unique hMerged
    exact ⟨hParameters, _, _, described, rfl, hHolds, hFields.described_iff.mpr hDescribed,
      hSame described⟩

/-! ## What is accepted -/

/-- What can be merged is described. -/
theorem FieldsMerge.exists_described (h : FieldsMerge fields mergedFields) :
    ∃ described, FieldsDescribed fields described := by
  induction h with
  | nil => exact ⟨[], .nil⟩
  | skipped hHolds hSkip _ ih =>
    obtain ⟨described, hDescribed⟩ := ih
    exact ⟨described, .skipped hHolds hSkip hDescribed⟩
  | kept hHolds hKept _ ih =>
    obtain ⟨described, hDescribed⟩ := ih
    exact ⟨_, .kept hHolds hKept hDescribed⟩

/-- What is described can be merged. -/
theorem FieldsDescribed.exists_merge (h : FieldsDescribed fields described) :
    ∃ merged, FieldsMerge fields merged := by
  induction h with
  | nil => exact ⟨[], .nil⟩
  | skipped hHolds hSkip _ ih =>
    obtain ⟨merged, hMerge⟩ := ih
    exact ⟨merged, .skipped hHolds hSkip hMerge⟩
  | kept hHolds hKept _ ih =>
    obtain ⟨merged, hMerge⟩ := ih
    exact ⟨_, .kept hHolds hKept hMerge⟩

/-- What is described can be merged, in one way, and nothing else can. -/
theorem exists_ofDeclaration_iff :
    (∃ blueprint, ofDeclaration declaration = .ok blueprint) ↔
      ∃! merged, MergesTo declaration merged := by
  constructor
  · rintro ⟨blueprint, h⟩
    obtain ⟨hParameters, fields, settings, described, hBody, hHolds, hDescribed, -⟩ :=
      ofDeclaration_eq_ok_iff.mp h
    obtain ⟨mergedFields, hFields⟩ := hDescribed.exists_merge
    have hMerges := MergesTo.merge hParameters hHolds hBody hFields
    exact ⟨_, hMerges, fun _ hOther => hOther.unique hMerges⟩
  · rintro ⟨_, ⟨hParameters, hHolds, hBody, hFields⟩, -⟩
    obtain ⟨described, hDescribed⟩ := hFields.exists_described
    exact ⟨_, ofDeclaration_eq_ok_iff.mpr
      ⟨hParameters, _, _, described, hBody, hHolds, hDescribed, rfl⟩⟩

/-- The attributes of every field hold settings, whether it is skipped or not. -/
theorem FieldsDescribed.holds (h : FieldsDescribed fields described) (hMem : field ∈ fields) :
    ∃ settings : List FieldSetting, Holds field.attributes settings := by
  induction h with
  | nil => cases hMem
  | skipped hHolds _ _ ih =>
    rcases List.mem_cons.mp hMem with rfl | hMem
    · exact ⟨_, hHolds⟩
    · exact ih hMem
  | kept hHolds _ _ ih =>
    rcases List.mem_cons.mp hMem with rfl | hMem
    · exact ⟨_, hHolds⟩
    · exact ih hMem

/-- An attribute that gives no settings is not passed over. -/
theorem exists_error_of_not_gives {carrier : Attribute} (hBody : declaration.body = .named fields)
    (hField : field ∈ fields) (hCarrier : carrier ∈ field.attributes)
    (hDescribe : carrier.path.word? = some "describe")
    (hWrong : ∀ settings : List FieldSetting, ¬Gives carrier settings) :
    ∃ cause, ofDeclaration declaration = .error cause := by
  cases hAnswer : ofDeclaration declaration with
  | error cause => exact ⟨cause, rfl⟩
  | ok blueprint =>
    -- a field is looked at even if it is skipped, so its attributes would hold settings
    obtain ⟨-, _, _, _, hAlso, -, hDescribed, -⟩ := ofDeclaration_eq_ok_iff.mp hAnswer
    cases hBody.symm.trans hAlso
    obtain ⟨settings, hHolds⟩ := hDescribed.holds hField
    obtain ⟨given, hGives⟩ := hHolds.gives hCarrier hDescribe
    exact absurd hGives (hWrong given)

/--
**A declaration is described as it is once it is merged.** The declarations that are described are
those that can be merged, and then in one way; two that are merged to the same have the same
blueprint, and it stands for the same code whatever path names the library. But a field with a
`describe` attribute that gives no settings is never passed over, not even if another attribute says
that it is skipped.
-/
theorem described_as_merged :
    (∀ {declaration : Declaration}, (∃ blueprint, ofDeclaration declaration = .ok blueprint) ↔
      ∃! merged, MergesTo declaration merged) ∧
    (∀ {one other merged : Declaration}, MergesTo one merged → MergesTo other merged →
      (∃ blueprint, ofDeclaration one = .ok blueprint ∧ ofDeclaration other = .ok blueprint) ∧
        ∀ path, (ofDeclaration one).map (·.expand path) =
          (ofDeclaration other).map (·.expand path)) ∧
    ∀ {declaration : Declaration} {fields : List FieldDeclaration} {field : FieldDeclaration}
      {carrier : Attribute}, declaration.body = .named fields → field ∈ fields →
      carrier ∈ field.attributes → carrier.path.word? = some "describe" →
      (∀ settings : List FieldSetting, ¬Gives carrier settings) →
      ∃ cause, ofDeclaration declaration = .error cause := by
  refine ⟨exists_ofDeclaration_iff, ?_, exists_error_of_not_gives⟩
  intro one other merged hOne hOther
  obtain ⟨blueprint, hBlueprint⟩ :=
    -- each is described as what it is merged to, which is the same for both
    exists_ofDeclaration_iff.mpr ⟨merged, hOne, fun _ hAlso => hAlso.unique hOne⟩
  have hMerged := (ofDeclaration_eq_ok_iff_of_mergesTo hOne).mp hBlueprint
  have hSame := (ofDeclaration_eq_ok_iff_of_mergesTo hOther).mpr hMerged
  refine ⟨⟨blueprint, hBlueprint, hSame⟩, fun path => ?_⟩
  rw [hBlueprint, hSame]

namespace Sample

/-- An attribute that says nothing about how the type is described. -/
def remark : Attribute := ⟨⟨[.word "doc"], false, ["doc"], true, .bare⟩, .assigned⟩

/-- A field for a text. -/
def textField (attributes : List Attribute) (visibility : List Tree) (ident : String) :
    FieldDeclaration :=
  ⟨attributes, visibility, ident,
    ⟨[.word "String"], .path ⟨[.word "String"], false, ["String"], true, .bare⟩⟩⟩

/-- A field that is skipped. -/
def hiddenField : FieldDeclaration :=
  textField [inAttribute [FieldSetting.skip, .rename "hidden"]] [] "cache"

/-- A field with its settings in two attributes. -/
def scatteredField : FieldDeclaration :=
  textField [inAttribute [FieldSetting.rename "text"],
    inAttribute [FieldSetting.readOnly, .rename "name"]] [.word "pub"] "text"

/-- The field with its settings in one attribute. -/
def gatheredField : FieldDeclaration :=
  textField [inAttribute [FieldSetting.rename "name", .readOnly]] [] "text"

/-- A declaration with its settings in several attributes, and a field that is skipped. -/
def scattered : Declaration where
  attributes := [inAttribute [TypeSetting.typeName "Mark", .hasDefault], remark,
    inAttribute [TypeSetting.hasDefault], inAttribute [TypeSetting.typeName "Tag"]]
  visibility := [.word "pub"]
  ident := "Label"
  parameters := []
  conditions := [.word "where"]
  body := .named [hiddenField, scatteredField]

/-- A declaration with the same settings in one attribute each. -/
def gathered : Declaration where
  attributes := [inAttribute [TypeSetting.hasDefault, .typeName "Tag"]]
  visibility := []
  ident := "Label"
  parameters := []
  conditions := []
  body := .named [gatheredField]

/-- What both are merged to. -/
def brief : Declaration :=
  { gathered with
    body := .named [textField [inAttribute [FieldSetting.readOnly, .rename "name"]] [] "text"] }

/-- A field that is skipped, and has a wrong attribute. -/
def wrongField : FieldDeclaration :=
  textField [inAttribute [FieldSetting.skip], ⟨describePath, .bare⟩] [] "text"

/-- A declaration with a wrong attribute. -/
def wrong : Declaration := { gathered with body := .named [wrongField] }

end Sample

/-- Settings come to the same in several attributes and in one, and a wrong attribute is found
beside one that says to skip the field. -/
theorem described_as_merged_scattered :
    (MergesTo Sample.scattered Sample.brief ∧ MergesTo Sample.gathered Sample.brief ∧
      ∃ blueprint, ofDeclaration Sample.scattered = .ok blueprint ∧
        ofDeclaration Sample.gathered = .ok blueprint) ∧
    ∃ cause, ofDeclaration Sample.wrong = .error cause := by
  obtain ⟨-, hSame, hWrong⟩ := described_as_merged
  have hAllowed : ∀ settings : List TypeSetting, .typeName "" ∉ settings →
      ∀ setting ∈ settings, IsAllowed setting :=
    fun settings hNamed setting hMem hEmpty => hNamed (hEmpty ▸ hMem)
  have hOther : Sample.remark.path.word? ≠ some "describe" := by decide
  -- the settings of three attributes, and between them one that says nothing
  have hType : Holds Sample.scattered.attributes
      [TypeSetting.typeName "Mark", .hasDefault, .hasDefault, .typeName "Tag"] :=
    .inAttribute (hAllowed [.typeName "Mark", .hasDefault] (by decide)) <| .other hOther <|
      .inAttribute (hAllowed [.hasDefault] (by decide)) <|
        .inAttribute (hAllowed [.typeName "Tag"] (by decide)) .nil
  have hGatheredType : Holds Sample.gathered.attributes [TypeSetting.hasDefault, .typeName "Tag"] :=
    holds_inAttribute (hAllowed [.hasDefault, .typeName "Tag"] (by decide))
  have hHidden : Holds Sample.hiddenField.attributes [FieldSetting.skip, .rename "hidden"] :=
    holds_inAttribute fun _ _ => trivial
  have hShown : Holds Sample.scatteredField.attributes
      [FieldSetting.rename "text", .readOnly, .rename "name"] :=
    .inAttribute (fun _ _ => trivial) (holds_inAttribute fun _ _ => trivial)
  have hPlain : Holds Sample.gatheredField.attributes [FieldSetting.rename "name", .readOnly] :=
    holds_inAttribute fun _ _ => trivial
  have hScattered : MergesTo Sample.scattered Sample.brief :=
    .merge rfl hType rfl (.skipped hHidden (by decide) (.kept hShown (by decide) .nil))
  have hGathered : MergesTo Sample.gathered Sample.brief :=
    .merge rfl hGatheredType rfl (.kept hPlain (by decide) .nil)
  refine ⟨⟨hScattered, hGathered, (hSame hScattered hGathered).1⟩, ?_⟩
  have hCarrier : ⟨describePath, .bare⟩ ∈ Sample.wrongField.attributes :=
    List.mem_cons_of_mem _ List.mem_cons_self
  -- the wrong attribute has no list of settings at all
  refine hWrong rfl (List.mem_singleton.mpr rfl) hCarrier rfl ?_
  rintro settings ⟨inner, hBody, -⟩
  cases hBody

end Introspect.Blueprint
