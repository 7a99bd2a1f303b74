import Introspect.Proofs.Blueprint.Acceptance

/-!
# Names that are described

A word that is reserved may still be a name if it is marked as raw. The mark is no part of the name:
a property goes by its name without it. A type that is given no other name keeps the mark, and so a
type and a property of the same name are told apart where the name is raw.

* `IsRaw`, `Names`: marked names, and the names that an identifier stands for.
* `plainName_of_names`: an identifier without its mark is the name that it stands for.

Main results:

* `described_names`: the names of types and of properties that are given no others.
* `raw_type_keeps_mark`: a type whose name keeps its mark.
-/

namespace Introspect.Blueprint

open Code Setting

variable {declaration : Declaration} {blueprint : Blueprint} {fields : List FieldDeclaration}
  {described : List FieldBlueprint} {name ident : String}

/-! ## Marks -/

/-- A name that is marked as raw. -/
def IsRaw (name : String) : Prop := "r#".toList <+: name.toList

instance (name : String) : Decidable (IsRaw name) :=
  inferInstanceAs (Decidable ("r#".toList <+: name.toList))

/-- What an identifier is for a name: the name itself, or the name with the mark of a raw one. -/
inductive Names (name : String) : String → Prop where
  | plain : Names name name
  | raw : Names name ("r#" ++ name)

/-- No mark is left once the marks are dropped. -/
theorem not_prefix_dropRawMarks (chars : List Char) : ¬['r', '#'] <+: dropRawMarks chars := by
  fun_induction dropRawMarks chars with
  | case1 rest ih => exact ih
  | case2 chars hPlain =>
    -- a text that still opens with a mark would have lost it
    rintro ⟨rest, rfl⟩
    exact hPlain rest rfl

/-- A text without a mark is left as it is. -/
theorem dropRawMarks_of_unmarked {chars : List Char} (h : ¬['r', '#'] <+: chars) :
    dropRawMarks chars = chars := by
  fun_cases dropRawMarks chars with
  | case1 rest => exact absurd ⟨rest, rfl⟩ h
  | case2 => rfl

theorem not_isRaw_plainName (ident : String) : ¬IsRaw (plainName ident) := by
  show ¬['r', '#'] <+: (String.ofList (dropRawMarks ident.toList)).toList
  rw [String.toList_ofList]
  exact not_prefix_dropRawMarks ident.toList

theorem plainName_of_not_isRaw (h : ¬IsRaw name) : plainName name = name := by
  unfold plainName
  rw [dropRawMarks_of_unmarked h, String.ofList_toList]

/-- An identifier without its mark is the name that it stands for. -/
theorem plainName_of_names (hName : ¬IsRaw name) (h : Names name ident) :
    plainName ident = name := by
  cases h with
  | plain => exact plainName_of_not_isRaw hName
  | raw =>
    have hMarks : ("r#" ++ name).toList = 'r' :: '#' :: name.toList := by
      rw [String.toList_append]
      rfl
    have hDrop : plainName ("r#" ++ name) = plainName name := by
      unfold plainName
      rw [hMarks, dropRawMarks]
    rw [hDrop, plainName_of_not_isRaw hName]

/-- Only an identifier without a mark is its own plain name. -/
theorem plainName_eq_self_iff : plainName ident = ident ↔ ¬IsRaw ident := by
  constructor
  · intro h
    rw [← h]
    exact not_isRaw_plainName ident
  · exact plainName_of_not_isRaw

/-! ## Described names -/

/-- What is described of a field is described of one that is declared and not skipped. -/
theorem FieldsDescribed.origin (h : FieldsDescribed fields described) {shown : FieldBlueprint}
    (hMem : shown ∈ described) :
    ∃ field ∈ fields, ∃ settings, Holds field.attributes settings ∧ .skip ∉ settings ∧
      shown = describedField field settings := by
  -- the skipped fields are passed over, and leave no trace
  induction h with
  | nil => cases hMem
  | skipped _ _ _ ih =>
    obtain ⟨field, hField, hOrigin⟩ := ih hMem
    exact ⟨field, List.mem_cons_of_mem _ hField, hOrigin⟩
  | kept hHolds hKept _ ih =>
    rcases List.mem_cons.mp hMem with rfl | hMem
    · exact ⟨_, List.mem_cons_self, _, hHolds, hKept, rfl⟩
    · obtain ⟨field, hField, hOrigin⟩ := ih hMem
      exact ⟨field, List.mem_cons_of_mem _ hField, hOrigin⟩

/-- A type that is given no name goes by its identifier. -/
theorem typeName_eq_ident (h : ofDeclaration declaration = .ok blueprint)
    {settings : List TypeSetting} (hHolds : Holds declaration.attributes settings)
    (hNone : lastText? settings = none) : blueprint.typeName = declaration.ident := by
  obtain ⟨-, _, others, _, -, hOthers, -, rfl⟩ := ofDeclaration_eq_ok_iff.mp h
  cases hHolds.unique hOthers
  exact congrArg (Option.getD · declaration.ident) hNone

/--
**The names of types and of properties.** A type that is given no name goes by its identifier as it
stands, which is its plain name unless it is marked. Each property is that of a declared field, and
if it is given no name, it goes by the name that the field's identifier stands for, without a mark.
-/
theorem described_names (h : ofDeclaration declaration = .ok blueprint) :
    (∀ settings : List TypeSetting, Holds declaration.attributes settings →
      lastText? settings = none → blueprint.typeName = declaration.ident ∧
        (blueprint.typeName = plainName declaration.ident ↔ ¬IsRaw declaration.ident)) ∧
    ∃ fields, declaration.body = .named fields ∧
      ∀ shown ∈ blueprint.fields, ∃ field ∈ fields, ∃ settings : List FieldSetting,
        Holds field.attributes settings ∧ .skip ∉ settings ∧ shown.ident = field.ident ∧
          (lastText? settings = none → ¬IsRaw shown.name ∧
            ∀ name, ¬IsRaw name → Names name field.ident → shown.name = name) := by
  obtain ⟨-, fields, _, described, hBody, -, hDescribed, rfl⟩ := ofDeclaration_eq_ok_iff.mp h
  refine ⟨?_, fields, hBody, ?_⟩
  · intro settings hHolds hNone
    have hName := typeName_eq_ident h hHolds hNone
    refine ⟨hName, ?_⟩
    -- the name is the identifier, so the question is when an identifier is plain
    rw [hName, eq_comm]
    exact plainName_eq_self_iff
  · intro shown hShown
    obtain ⟨field, hField, settings, hHolds, hKept, rfl⟩ := hDescribed.origin hShown
    refine ⟨field, hField, settings, hHolds, hKept, rfl, fun hNone => ?_⟩
    have hName : (describedField field settings).name = plainName field.ident :=
      congrArg (Option.getD · (plainName field.ident)) hNone
    rw [hName]
    exact ⟨not_isRaw_plainName _, fun name hPlain hNames => plainName_of_names hPlain hNames⟩

namespace Sample

/-- The text of a struct with a raw name, and a field of the same name. -/
def rawText : String := "struct r#type \x7b r#type: i64 \x7d"

/-- The field with a raw name. -/
def rawField : FieldDeclaration :=
  ⟨[], [], "r#type", ⟨[.word "i64"], .path ⟨[.word "i64"], false, ["i64"], true, .bare⟩⟩⟩

/-- The struct with a raw name. -/
def raw : Declaration := ⟨[], [], "r#type", [], [], .named [rawField]⟩

end Sample

/-- The name of a field has no mark, that of a type keeps it. -/
theorem described_names_raw :
    ∃ blueprint, ofDeclaration Sample.raw = .ok blueprint ∧ blueprint.typeName = "r#type" ∧
      ∃ shown ∈ blueprint.fields, shown.name = "type" := by
  have hOk : ofDeclaration Sample.raw = .ok
      (describedStruct Sample.raw [] [describedField Sample.rawField []]) :=
    ofDeclaration_eq_ok_iff.mpr
      ⟨rfl, _, [], _, rfl, .nil, .kept .nil (by decide) .nil, rfl⟩
  obtain ⟨hType, fields, hBody, hFields⟩ := described_names hOk
  obtain ⟨field, hField, settings, hHolds, -, -, hName⟩ := hFields _ List.mem_cons_self
  cases hBody
  -- there is one field, and its attributes hold nothing
  obtain rfl := List.mem_singleton.mp hField
  cases hHolds.unique (show Holds Sample.rawField.attributes [] from .nil)
  exact ⟨_, hOk, (hType [] .nil rfl).1, _, List.mem_cons_self,
    (hName rfl).2 "type" (by decide) .raw⟩

/-- **A raw name leaks into what is described**: a type may keep the mark of its name. -/
theorem raw_type_keeps_mark :
    ¬∀ (text : String) (declaration : Declaration) (blueprint : Blueprint),
      Declaration.parse text = some declaration → ofDeclaration declaration = .ok blueprint →
      ∀ settings : List TypeSetting, Holds declaration.attributes settings →
        lastText? settings = none → ∀ name, ¬IsRaw name → Names name declaration.ident →
          blueprint.typeName = name := by
  intro hClaim
  -- the text is read and described, with the mark on both names
  have hReads : (Declaration.parse Sample.rawText).isSome = true := by decide +kernel
  have hBare : ∀ declaration ∈ Declaration.parse Sample.rawText,
      declaration.ident = "r#type" ∧ declaration.attributes.isEmpty = true ∧
        (ofDeclaration declaration).isOk = true := by decide +kernel
  obtain ⟨declaration, hRead⟩ := Option.isSome_iff_exists.mp hReads
  obtain ⟨hIdent, hEmpty, hAccepted⟩ := hBare declaration hRead
  have hNone : Holds declaration.attributes ([] : List TypeSetting) := by
    rw [List.isEmpty_iff.mp hEmpty]
    exact .nil
  cases hOk : ofDeclaration declaration with
  | error cause =>
    rw [hOk] at hAccepted
    cases hAccepted
  | ok blueprint =>
    have hNames : Names "type" declaration.ident := by
      rw [hIdent]
      exact .raw
    have hName := hClaim _ declaration blueprint hRead hOk [] hNone rfl "type" (by decide) hNames
    rw [typeName_eq_ident hOk hNone rfl, hIdent] at hName
    exact absurd hName (by decide)

end Introspect.Blueprint
