import Introspect.Proofs.Candidate.Collection
import Introspect.Proofs.Profile.Discovery
import Introspect.Proofs.Text.Cut

/-!
# Signatures and their keys

Methods of one erased signature count as one. They are told by a key, which joins the texts of a
signature with a number sign, a colon and commas. Names may hold these marks themselves, so a key may
be that of several signatures. Read back, with the first number sign for the end of the return type,
the next colon for the end of the name and every later comma for the end of a parameter type, a key
gives one of them.

* `Signature` — what is the same of methods that should count as one.
* `Signature.key` and `Signature.read` — the key of a signature, and the signature that is read back.
* `Signature.Legible` — no mark is where it would be taken for the end of a part, and a type that is
  returned has a name.

Main results:

* `Signature.read_key`: a legible signature is read back from its key.
* `Signature.key_read` and `Signature.legible_read`: what is read back from any key is legible, and
  has that key.
* `signatures_told_apart`: keys tell legible signatures apart and no others, and no method of a new
  signature is left out among legible ones.
* `signatures_confused`: a method is left out whose signature no other method has.
-/

namespace Introspect

open Text

variable {V : Type}

/-- The erased signature of a method: its name, the type that it returns, if it returns one, and the
types that it takes. -/
structure Signature where
  name : String
  returned? : Option TypeName
  parameters : List TypeName
  deriving DecidableEq

/-- The erased signature of a candidate. -/
def Candidate.signature (source : Source V) (candidate : Candidate V) : Signature where
  name := candidate.method.name
  returned? := candidate.method.returns?.map fun type => source.erase type candidate.declaring
  parameters := candidate.erasedParameters source

/-! ## Keys -/

namespace Signature

variable {signature other : Signature}

/-- The text of the type that is returned; there is none where nothing is returned. -/
def returnedText (signature : Signature) : List Char :=
  signature.returned?.elim [] (·.text.toList)

/-- The texts of the types that are taken, behind a colon; there is no colon where nothing is taken. -/
def parametersText (signature : Signature) : List Char :=
  match signature.parameters with
  | [] => []
  | parameters => ':' :: [','].intercalate (parameters.map (·.text.toList))

/-- The key of a signature. -/
def key (signature : Signature) : String :=
  String.ofList
    (signature.returnedText ++ '#' :: (signature.name.toList ++ signature.parametersText))

/-- No mark is where it would be taken for the end of a part, and a type that is returned has a
name. -/
structure Legible (signature : Signature) : Prop where
  returned : ∀ type ∈ signature.returned?, type.text ≠ "" ∧ '#' ∉ type.text.toList
  name : ':' ∉ signature.name.toList
  parameters : ∀ type ∈ signature.parameters, ',' ∉ type.text.toList

instance (signature : Signature) : Decidable signature.Legible :=
  decidable_of_iff
    ((∀ type ∈ signature.returned?, type.text ≠ "" ∧ '#' ∉ type.text.toList) ∧
      ':' ∉ signature.name.toList ∧ ∀ type ∈ signature.parameters, ',' ∉ type.text.toList)
    ⟨fun ⟨hReturned, hName, hParameters⟩ => ⟨hReturned, hName, hParameters⟩,
      fun hLegible => ⟨hLegible.returned, hLegible.name, hLegible.parameters⟩⟩

/-- The type that a text names. -/
def named (text : List Char) : TypeName := ⟨String.ofList text⟩

@[simp] theorem text_named (text : List Char) : (named text).text.toList = text :=
  String.toList_ofList

@[simp] theorem named_text (type : TypeName) : named type.text.toList = type := by
  rw [named, String.ofList_toList]

/-- The type that is returned, which a text names unless it is empty. -/
def readReturned? (text : List Char) : Option TypeName :=
  if text = [] then none else some (named text)

/-- The types that are named behind a colon. -/
def readParameters : List Char → List TypeName
  | [] => []
  | _ :: texts => (texts.splitOn ',').map named

/-- What stands behind the first number sign. -/
def callText (key : String) : List Char := (key.toList.dropWhile (· != '#')).drop 1

/-- The signature that is read back from a key. -/
def read (key : String) : Signature where
  name := String.ofList ((callText key).takeWhile (· != ':'))
  returned? := readReturned? (key.toList.takeWhile (· != '#'))
  parameters := readParameters ((callText key).dropWhile (· != ':'))

/-- What stands behind a name begins with a colon, if anything stands there. -/
theorem head?_parametersText (signature : Signature) :
    ∀ c ∈ signature.parametersText.head?, c = ':' := by
  intro c hHead
  unfold parametersText at hHead
  split at hHead
  · cases hHead
  · exact (Option.some.inj hHead).symm

/-- The type that a legible signature returns is read back. -/
theorem readReturned?_returnedText (hLegible : signature.Legible) :
    readReturned? signature.returnedText = signature.returned? := by
  unfold readReturned? returnedText
  -- only a type with an empty text would be taken for none, and no legible one is
  cases hReturned : signature.returned? with
  | none => rfl
  | some type =>
    have hText : type.text.toList ≠ [] := by
      simpa using (hLegible.returned type hReturned).1
    rw [Option.elim_some, if_neg hText, named_text]

/-- The types that a legible signature takes are read back. -/
theorem readParameters_parametersText (hLegible : signature.Legible) :
    readParameters signature.parametersText = signature.parameters := by
  unfold parametersText
  cases hParameters : signature.parameters with
  | nil => rfl
  | cons first rest =>
    -- no name holds a comma, so the commas are those that were put between the names
    have hTexts : ∀ text ∈ (first :: rest).map (·.text.toList), ',' ∉ text := by
      intro text hText
      obtain ⟨type, hType, rfl⟩ := List.mem_map.mp hText
      exact hLegible.parameters type (hParameters ▸ hType)
    show (List.splitOn ',' ([','].intercalate ((first :: rest).map (·.text.toList)))).map _ = _
    rw [List.splitOn_intercalate ',' hTexts (by simp)]
    simp [Function.comp_def]

/-- **A legible signature is read back from its key.** -/
theorem read_key (hLegible : signature.Legible) : read signature.key = signature := by
  -- the first number sign of the key is the one that was put behind the return type
  have hReturned : '#' ∉ signature.returnedText := by
    unfold returnedText
    cases hSome : signature.returned? with
    | none => exact List.not_mem_nil
    | some type => exact (hLegible.returned type hSome).2
  have hColon := signature.head?_parametersText
  have hCall : callText signature.key = signature.name.toList ++ signature.parametersText := by
    rw [callText, key, String.toList_ofList, dropWhile_ne_append hReturned (by simp)]
    rfl
  -- the three parts are cut off one after the other, each at the first mark of its own
  rw [read, hCall, takeWhile_ne_append hLegible.name hColon,
    dropWhile_ne_append hLegible.name hColon, key, String.toList_ofList,
    takeWhile_ne_append hReturned (by simp), String.ofList_toList,
    readReturned?_returnedText hLegible, readParameters_parametersText hLegible]

/-- Legible signatures of one key are the same. -/
theorem eq_of_key_eq (hLegible : signature.Legible) (hLegible' : other.Legible)
    (hKey : signature.key = other.key) : signature = other := by
  rw [← read_key hLegible, hKey, read_key hLegible']

/-- The type that is read back has the text before the first number sign. -/
theorem returnedText_read (key : String) :
    (read key).returnedText = key.toList.takeWhile (· != '#') := by
  show (readReturned? (key.toList.takeWhile (· != '#'))).elim [] _ = _
  unfold readReturned?
  split
  · rename_i hEmpty
    rw [hEmpty]
    rfl
  · rw [Option.elim_some, text_named]

/-- The types that are read back have the texts behind the first colon after that. -/
theorem parametersText_read (key : String) :
    (read key).parametersText = (callText key).dropWhile (· != ':') := by
  have hColon := head?_dropWhile_ne ':' (callText key)
  unfold parametersText read
  dsimp only
  cases hBehind : (callText key).dropWhile (· != ':') with
  | nil => rfl
  | cons c texts =>
    rw [hBehind] at hColon
    obtain rfl : c = ':' := hColon c rfl
    -- a text has at least one piece, so there is a colon before the pieces again
    obtain ⟨first, others, hPieces⟩ := List.exists_cons_of_ne_nil (List.splitOn_ne_nil ',' texts)
    have hTexts : [','].intercalate (first :: others) = texts := by
      rw [← hPieces, List.intercalate_splitOn]
    rw [readParameters, hPieces]
    show ':' :: [','].intercalate (((first :: others).map named).map (·.text.toList)) = _
    rw [← hTexts]
    simp [Function.comp_def]

/-- **What is read back from a text with a number sign has the text for its key.** -/
theorem key_read {text : String} (hMark : '#' ∈ text.toList) : (read text).key = text := by
  have hCut := List.takeWhile_append_dropWhile (p := (· != '#')) (l := text.toList)
  have hBehind : text.toList.dropWhile (· != '#') = '#' :: callText text := by
    unfold callText
    cases hCall : text.toList.dropWhile (· != '#') with
    | nil =>
      -- otherwise all would stand before the first number sign
      rw [hCall, List.append_nil] at hCut
      exact absurd (hCut ▸ hMark) (notMem_takeWhile_ne _)
    | cons c call =>
      have hHead := head?_dropWhile_ne '#' text.toList
      rw [hCall] at hHead
      rw [hHead c rfl]
      rfl
  rw [key, returnedText_read, parametersText_read]
  -- what is before the mark, the mark and what is behind it make up the text
  show String.ofList (_ ++ '#' :: ((String.ofList _).toList ++ _)) = _
  rw [String.toList_ofList, List.takeWhile_append_dropWhile, ← hBehind, hCut, String.ofList_toList]

/-- What is read back is legible. -/
theorem legible_read (text : String) : (read text).Legible where
  returned type hType := by
    unfold read readReturned? at hType
    dsimp only at hType
    split at hType
    · cases hType
    · -- a type is read back only from a text that is not empty, and ends before the mark
      rename_i hText
      cases hType
      refine ⟨fun hEmpty => hText ?_, ?_⟩
      · simpa [named] using congrArg String.toList hEmpty
      · rw [text_named]
        exact notMem_takeWhile_ne _
  name := by
    show ':' ∉ (String.ofList _).toList
    rw [String.toList_ofList]
    exact notMem_takeWhile_ne _
  parameters type hType := by
    change type ∈ readParameters _ at hType
    unfold readParameters at hType
    split at hType
    · cases hType
    · -- a piece between commas holds no comma
      obtain ⟨text, hText, rfl⟩ := List.mem_map.mp hType
      rw [text_named]
      exact notMem_of_mem_splitOn hText

theorem mark_mem_key (signature : Signature) : '#' ∈ signature.key.toList := by
  rw [key, String.toList_ofList]
  exact List.mem_append_right _ List.mem_cons_self

end Signature

/-! ## Signatures of candidates -/

/-- A method of a given signature, and no more than that. -/
def Signature.method (signature : Signature) : Method V where
  name := signature.name
  returns? := signature.returned?.map .named
  parameters := signature.parameters.map .named
  isBridge := false
  body? := none

namespace Candidate

variable {source : Source V} {candidate other : Candidate V}

/-- A method that was made for a signature has that signature. -/
theorem signature_method (source : Source V) (declaring : TypeName) (signature : Signature) :
    Candidate.signature source ⟨declaring, signature.method⟩ = signature := by
  obtain ⟨name, returned?, parameters⟩ := signature
  simp [Candidate.signature, Signature.method, erasedParameters, Source.erase, Function.comp_def]

/-- The key of a candidate is that of its signature. -/
theorem signatureKey_eq_key (source : Source V) (candidate : Candidate V) :
    candidate.signatureKey source = (candidate.signature source).key := by
  rw [← String.toList_inj, Signature.key, String.toList_ofList]
  -- there are the four cases of returning something or not and taking something or not
  unfold signatureKey signature Signature.returnedText Signature.parametersText erasedReturn
  cases candidate.method.returns? <;> cases candidate.erasedParameters source <;>
    simp [String.toList_intercalate, Function.comp_def]

/-- Candidates of one signature have one key. -/
theorem signatureKey_eq_of_signature_eq (hSame : candidate.signature source = other.signature source) :
    candidate.signatureKey source = other.signatureKey source := by
  rw [signatureKey_eq_key, hSame, signatureKey_eq_key]

/-- **A signature that is not legible has its key in common with another.** -/
theorem exists_confused (hConfusing : ¬(candidate.signature source).Legible) :
    ∃ other : Candidate V, (other.signature source).Legible ∧
      other.signature source ≠ candidate.signature source ∧
      other.signatureKey source = candidate.signatureKey source := by
  -- the signature that is read back from the key is legible, so it is another one
  have hLegible := Signature.legible_read (candidate.signature source).key
  have hRead := signature_method source candidate.declaring
    (Signature.read (candidate.signature source).key)
  refine ⟨_, hRead ▸ hLegible, ?_, ?_⟩
  · rw [hRead]
    intro hSame
    exact hConfusing (hSame ▸ hLegible)
  · rw [signatureKey_eq_key, hRead, signatureKey_eq_key,
      Signature.key_read (Signature.mark_mem_key _)]

end Candidate

/-! ## Methods that are collected -/

namespace Source

variable {source : Source V} {type : TypeName} {candidate : Candidate V}
  {before after : List (Candidate V)}

/-- **No method of a new signature is left out**, if its signature and those before are legible. -/
theorem mem_candidates_of_new
    (hDeclared : declaredMethods (source.methodOwners [] type) = before ++ candidate :: after)
    (hNoBridge : candidate.method.isBridge = false)
    (hLegible : (candidate.signature source).Legible)
    (hBefore : ∀ other ∈ before, other.method.isBridge = false →
      (other.signature source).Legible ∧ other.signature source ≠ candidate.signature source) :
    candidate ∈ source.candidates type := by
  refine mem_candidates_iff.mpr ⟨hNoBridge, before, after, hDeclared, ?_⟩
  intro other hOther hOtherNoBridge hKey
  obtain ⟨hOtherLegible, hNew⟩ := hBefore other hOther hOtherNoBridge
  rw [Candidate.signatureKey_eq_key, Candidate.signatureKey_eq_key] at hKey
  exact hNew (Signature.eq_of_key_eq hOtherLegible hLegible hKey)

/-- What is collected is of a new signature. -/
theorem exists_new_of_mem_candidates (hCandidate : candidate ∈ source.candidates type) :
    ∃ before after,
      declaredMethods (source.methodOwners [] type) = before ++ candidate :: after ∧
      ∀ other ∈ before, other.method.isBridge = false →
        other.signature source ≠ candidate.signature source := by
  obtain ⟨-, before, after, hDeclared, hBefore⟩ := mem_candidates_iff.mp hCandidate
  refine ⟨before, after, hDeclared, fun other hOther hNoBridge hSame => ?_⟩
  exact hBefore other hOther hNoBridge (Candidate.signatureKey_eq_of_signature_eq hSame)

/--
**Keys tell legible signatures apart, and no others.** Methods of one erased signature have one key,
wherever they are declared, and legible signatures of one key are the same; but a method whose
signature is not legible has its key in common with a method of another signature. What is collected
for a type is always of a signature that no method before it has, and such a method is collected if
its signature and those of the methods before it are legible.
-/
theorem signatures_told_apart (source : Source V) :
    (∀ candidate other : Candidate V, candidate.signature source = other.signature source →
      candidate.signatureKey source = other.signatureKey source) ∧
    (∀ candidate other : Candidate V,
      (candidate.signature source).Legible → (other.signature source).Legible →
        candidate.signatureKey source = other.signatureKey source →
          candidate.signature source = other.signature source) ∧
    (∀ candidate : Candidate V, ¬(candidate.signature source).Legible →
      ∃ other : Candidate V, (other.signature source).Legible ∧
        other.signature source ≠ candidate.signature source ∧
        other.signatureKey source = candidate.signatureKey source) ∧
    ∀ (type : TypeName) (candidate : Candidate V),
      (candidate ∈ source.candidates type → ∃ before after,
        declaredMethods (source.methodOwners [] type) = before ++ candidate :: after ∧
        ∀ other ∈ before, other.method.isBridge = false →
          other.signature source ≠ candidate.signature source) ∧
      ∀ before after,
        declaredMethods (source.methodOwners [] type) = before ++ candidate :: after →
        candidate.method.isBridge = false → (candidate.signature source).Legible →
        (∀ other ∈ before, other.method.isBridge = false →
          (other.signature source).Legible ∧
            other.signature source ≠ candidate.signature source) →
        candidate ∈ source.candidates type := by
  refine ⟨fun _ _ => Candidate.signatureKey_eq_of_signature_eq, ?_,
    fun _ => Candidate.exists_confused, fun type candidate =>
      ⟨exists_new_of_mem_candidates, fun _ _ => mem_candidates_of_new⟩⟩
  intro candidate other hLegible hLegible' hKey
  rw [Candidate.signatureKey_eq_key, Candidate.signatureKey_eq_key] at hKey
  exact Signature.eq_of_key_eq hLegible hLegible' hKey

end Source

/-! ## A sample -/

namespace Sample

def thermostat : TypeName := ⟨"Thermostat"⟩

def getMode : Candidate Value := ⟨thermostat, method "getMode" (some ⟨"String"⟩) []⟩

/-- Sets the mode by its number. -/
def setModeNumber : Candidate Value := ⟨thermostat, method "setMode" none [⟨"i64"⟩]⟩

/-- Sets the mode by its name. -/
def setMode : Candidate Value := ⟨thermostat, method "setMode" none [⟨"String"⟩]⟩

/-- Sets the range to what lies between two degrees. -/
def setEnds : Candidate Value := ⟨thermostat, method "setRange" none [⟨"i64"⟩, ⟨"String"⟩]⟩

/-- Sets the range to a pair, of a type that is named for what it pairs. -/
def setPair : Candidate Value := ⟨thermostat, method "setRange" none [⟨"i64,String"⟩]⟩

/-- Thermostats have setters of one name that differ in what they take. -/
def thermostats : Source Value :=
  (Catalog.mk
    [{ Description.plain thermostat .concrete with
      methods := [getMode, setModeNumber, setMode, setEnds, setPair].map Candidate.method }]).toSource

end Sample

namespace Source

/-- The setters of the mode have different keys, and the second is collected after the first. The
setter of a pair has the key of another method. -/
theorem signatures_told_apart_thermostat :
    (Sample.setModeNumber.signature Sample.thermostats).Legible ∧
      (Sample.setMode.signature Sample.thermostats).Legible ∧
      Sample.setModeNumber.signatureKey Sample.thermostats ≠
        Sample.setMode.signatureKey Sample.thermostats ∧
      ¬(Sample.setPair.signature Sample.thermostats).Legible ∧
      (∃ other : Candidate Value, (other.signature Sample.thermostats).Legible ∧
        other.signature Sample.thermostats ≠ Sample.setPair.signature Sample.thermostats ∧
        other.signatureKey Sample.thermostats = Sample.setPair.signatureKey Sample.thermostats) ∧
      Sample.setMode ∈ Sample.thermostats.candidates Sample.thermostat := by
  obtain ⟨-, hApart, hConfused, hCollects⟩ := signatures_told_apart Sample.thermostats
  have hNumber : (Sample.setModeNumber.signature Sample.thermostats).Legible := by decide +kernel
  have hMode : (Sample.setMode.signature Sample.thermostats).Legible := by decide +kernel
  have hPair : ¬(Sample.setPair.signature Sample.thermostats).Legible := by decide +kernel
  have hOther : Sample.setModeNumber.signature Sample.thermostats ≠
      Sample.setMode.signature Sample.thermostats := by decide
  have hDeclared : declaredMethods (Sample.thermostats.methodOwners [] Sample.thermostat) =
      [Sample.getMode, Sample.setModeNumber] ++ Sample.setMode ::
        [Sample.setEnds, Sample.setPair] := by cbv
  refine ⟨hNumber, hMode, fun hKey => hOther (hApart _ _ hNumber hMode hKey), hPair,
    hConfused _ hPair, (hCollects _ _).2 _ _ hDeclared rfl hMode fun other hBefore _ => ?_⟩
  rcases List.mem_pair.mp hBefore with rfl | rfl
  · exact ⟨by decide +kernel, by decide⟩
  · exact ⟨hNumber, hOther⟩

/-- **A method is left out whose signature no other has.** The setters of the range take different
types under one key, so the second is not collected, and the range cannot be set. -/
theorem signatures_confused :
    declaredMethods (Sample.thermostats.methodOwners [] Sample.thermostat) =
        [Sample.getMode, Sample.setModeNumber, Sample.setMode, Sample.setEnds, Sample.setPair] ∧
      (∀ other ∈ [Sample.getMode, Sample.setModeNumber, Sample.setMode, Sample.setEnds],
        other.signature Sample.thermostats ≠ Sample.setPair.signature Sample.thermostats) ∧
      Sample.setEnds.signatureKey Sample.thermostats =
        Sample.setPair.signatureKey Sample.thermostats ∧
      Sample.thermostats.candidates Sample.thermostat =
        [Sample.getMode, Sample.setModeNumber, Sample.setMode, Sample.setEnds] ∧
      (Sample.profileOf Sample.thermostats Sample.thermostat).has .setter "mode" = true ∧
      (Sample.profileOf Sample.thermostats Sample.thermostat).has .setter "range" = false := by
  refine ⟨by cbv, by decide, by cbv, by cbv, by cbv, by cbv⟩

end Source

end Introspect
