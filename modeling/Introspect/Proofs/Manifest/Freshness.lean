import Introspect.Manifest.Store

/-!
# Kept manifests answer as the file does

What is kept of a manifest may be older than the last few times the file was written: a use that
fails keeps nothing, and the time of a file may go back or come again. As long as one time stands
for one text, nobody can tell that anything is kept.

* `Honest` — files of one time hold one text.
* `File.path?` — what the file alone answers.
* `Store.Faithful` — what is kept was read from a file of the time that it is kept under.

One use answers as the file does and stays faithful (`Faithful.step`), and so does a whole run:
**`Store.answers_fresh`**.
-/

namespace Introspect.Manifest

open Code Toml

/-! ## Honest times and fresh answers -/

/-- Files that were written at one time hold one text. -/
def Honest (written : List File) : Prop :=
  ∀ one ∈ written, ∀ other ∈ written, one.time = other.time → one.text = other.text

instance (written : List File) : Decidable (Honest written) :=
  inferInstanceAs (Decidable (∀ one ∈ written, ∀ other ∈ written, _))

/-- The path of a library, read anew from a file. -/
def File.path? (file : File) (name : String) : Option (List Tree) :=
  Document.parse file.text >>= (Manifest.path? · name)

/-- The file that is there after a step. -/
def Store.Step.fileAfter (file? : Option File) (next : Step) : Option File := next.file?.or file?

/-- What is read anew from the file that is there after some steps and one more. -/
def Store.freshAnswer (file? : Option File) (before : List Step) (next : Step) :
    Option (List Tree) :=
  (before ++ [next]).foldl Step.fileAfter file? >>= (·.path? next.name)

namespace Store

variable {written : List File} {store : Store} {file : File} {name : String} {next : Step}

/-! ## One use -/

/-- All that a store knows comes from the files that were written: the file that is there is one of
them, and what is kept was read from one, under its time. -/
structure Faithful (written : List File) (store : Store) : Prop where
  file_mem : ∀ {file}, store.file? = some file → file ∈ written
  kept_read : ∀ {document time}, store.kept? = some (document, time) →
    ∃ file ∈ written, file.time = time ∧ Document.parse file.text = some document

/-- A store that keeps nothing is faithful. -/
theorem faithful_start {file? : Option File} (hFile : ∀ file ∈ file?, file ∈ written) :
    Faithful written ⟨file?, none⟩ where
  file_mem := fun h => hFile _ h
  kept_read := nofun

/-- A file that is written leaves what is kept under the time it was read at. -/
theorem Faithful.write (h : Faithful written store) (hFile : file ∈ written) :
    Faithful written (store.write file) where
  file_mem := by
    intro other hOther
    cases hOther
    exact hFile
  kept_read := h.kept_read

/-- What is kept under the time of a file is what would be read from it. -/
theorem Faithful.document?_eq (h : Faithful written store) (hHonest : Honest written)
    (hFile : file ∈ written) : store.document? file = Document.parse file.text := by
  unfold document?
  split
  · rename_i document time hKept
    split
    · rename_i hTime
      -- the file that it was read from may be another one, but holds the same text
      obtain ⟨origin, hOrigin, hSame, hRead⟩ := h.kept_read hKept
      have hText : origin.text = file.text :=
        hHonest origin hOrigin file hFile (hSame.trans (eq_of_beq hTime))
      rw [← hText, hRead]
    · rfl
  · rfl

/-- All that a request can do: it fails for want of a file, a document or a path, and leaves the
store as it is; or it has a path, and keeps the document that it has it from. -/
theorem path?_cases (store : Store) (name : String) :
    (store.path? name = (none, store) ∧
      ∀ file, store.file? = some file → store.document? file >>= (Manifest.path? · name) = none) ∨
      ∃ file document path, store.file? = some file ∧ store.document? file = some document ∧
        Manifest.path? document name = some path ∧
        store.path? name = (some path, { store with kept? := some (document, file.time) }) := by
  -- one case each for a file, a document and a path that is not there
  unfold path?
  cases hFile : store.file? with
  | none => exact .inl ⟨rfl, nofun⟩
  | some file =>
    dsimp only
    cases hDocument : store.document? file with
    | none =>
      refine .inl ⟨rfl, ?_⟩
      rintro _ ⟨⟩
      rw [hDocument]
      rfl
    | some document =>
      dsimp only
      cases hPath : Manifest.path? document name with
      | none =>
        refine .inl ⟨rfl, ?_⟩
        rintro _ ⟨⟩
        rw [hDocument]
        exact hPath
      | some path => exact .inr ⟨file, document, path, rfl, hDocument, hPath, rfl⟩

/-- A request leaves the file alone. -/
theorem file?_path? (store : Store) (name : String) :
    (store.path? name).2.file? = store.file? := by
  rcases path?_cases store name with ⟨hAll, -⟩ | ⟨file, document, path, -, -, -, hAll⟩
  · rw [hAll]
  · rw [hAll]

/-- A request is answered as the file alone would answer it. -/
theorem Faithful.fst_path? (h : Faithful written store) (hHonest : Honest written) :
    (store.path? name).1 = store.file? >>= (·.path? name) := by
  rcases path?_cases store name with ⟨hAll, hNone⟩ |
    ⟨file, document, path, hFile, hDocument, hPath, hAll⟩
  -- the request failed, so that it would fail for the file alone as well
  · rw [hAll]
    cases hFile : store.file? with
    | none => rfl
    | some file =>
      have hFresh := hNone file hFile
      rw [h.document?_eq hHonest (h.file_mem hFile)] at hFresh
      exact hFresh.symm
  · rw [h.document?_eq hHonest (h.file_mem hFile)] at hDocument
    rw [hAll, hFile]
    show some path = Document.parse file.text >>= (Manifest.path? · name)
    rw [hDocument]
    exact hPath.symm

/-- What a request keeps was read from a file of the time that it is kept under. -/
theorem Faithful.path? (h : Faithful written store) (hHonest : Honest written) :
    Faithful written (store.path? name).2 := by
  rcases path?_cases store name with ⟨hAll, -⟩ | ⟨file, document, path, hFile, hDocument, -, hAll⟩
  · rw [hAll]
    exact h
  · rw [h.document?_eq hHonest (h.file_mem hFile)] at hDocument
    rw [hAll]
    refine ⟨h.file_mem, ?_⟩
    -- what is kept now was read from the file of this request
    rintro _ _ ⟨⟩
    exact ⟨file, h.file_mem hFile, rfl, hDocument⟩

/-- **One step answers as the file does that is there then**, and the store stays faithful. -/
theorem Faithful.step (h : Faithful written store) (hHonest : Honest written)
    (hFile : ∀ file, next.file? = some file → file ∈ written) :
    (store.step next).1 = Step.fileAfter store.file? next >>= (·.path? next.name) ∧
      (store.step next).2.file? = Step.fileAfter store.file? next ∧
      Faithful written (store.step next).2 := by
  unfold Store.step Step.fileAfter
  cases hNext : next.file? with
  | none => exact ⟨h.fst_path? hHonest, file?_path? store next.name, h.path? hHonest⟩
  -- the file is written first, and then the request is answered
  | some file =>
    have hWritten := h.write (hFile file hNext)
    exact ⟨hWritten.fst_path? hHonest, file?_path? _ next.name, hWritten.path? hHonest⟩

/-! ## Runs -/

/-- Every step of a run answers as the file does that is there then. -/
theorem Faithful.answers (h : Faithful written store) (hHonest : Honest written)
    (before : List Step) (next : Step) (after : List Step)
    (hFiles : ∀ step ∈ before ++ next :: after, ∀ file, step.file? = some file → file ∈ written) :
    (answers store (before ++ next :: after))[before.length]? =
      some (freshAnswer store.file? before next) := by
  -- over the steps before the one that is asked for, each of which leaves the store faithful
  induction before generalizing store with
  | nil =>
    have hNext := hFiles next (List.mem_append_right _ List.mem_cons_self)
    exact congrArg some (h.step hHonest hNext).1
  | cons first rest ih =>
    obtain ⟨-, hFile, hFaithful⟩ := h.step hHonest (hFiles first List.mem_cons_self)
    have hLater := ih hFaithful fun step hStep => hFiles step (List.mem_cons_of_mem _ hStep)
    rw [hFile] at hLater
    exact hLater

/-- Every step of a run has an answer. -/
theorem length_answers (store : Store) (steps : List Step) :
    (answers store steps).length = steps.length := by
  induction steps generalizing store with
  | nil => rfl
  | cons next rest ih => exact congrArg (· + 1) (ih _)

/-- **Nobody can tell that anything is kept.** Where files of one time hold one text, a run that
starts with nothing kept gives one answer for every step, and it is the one that reading the file
anew would give: the path, or none where there is no file, no document or no path. -/
theorem answers_fresh (start : Option File) (steps : List Step)
    (hHonest : Honest (start.toList ++ steps.filterMap Step.file?)) :
    (answers ⟨start, none⟩ steps).length = steps.length ∧
      ∀ before next after, steps = before ++ next :: after →
        (answers ⟨start, none⟩ steps)[before.length]? = some (freshAnswer start before next) := by
  refine ⟨length_answers _ _, ?_⟩
  rintro before next after rfl
  have hStart : ∀ file ∈ start,
      file ∈ start.toList ++ (before ++ next :: after).filterMap Step.file? :=
    fun file hFile => List.mem_append_left _ (Option.mem_toList.mpr hFile)
  refine (faithful_start hStart).answers hHonest before next after fun step hStep file hFile => ?_
  exact List.mem_append_right _ (List.mem_filterMap.mpr ⟨step, hStep, hFile⟩)

namespace Sample

/-- A manifest that lists a facade. -/
def facade : File := ⟨"[dependencies]\npm_core = \"1\"\n", 5⟩

/-- A manifest that is written and spoiled, put back with its old time, asked for a name that spells
no path, and written with an earlier time. -/
def uses : List Step :=
  [⟨some facade, "pm_meta"⟩, ⟨some ⟨"[dependencies", 7⟩, "pm_meta"⟩, ⟨none, "pm_meta"⟩,
    ⟨some facade, "pm_meta"⟩, ⟨none, "a b"⟩, ⟨some ⟨"", 3⟩, "pm_meta"⟩]

end Sample

-- a time that stands for two texts gives a stale answer
example : (answers ⟨none, none⟩ [⟨some Sample.facade, "pm_meta"⟩, ⟨some ⟨"", 5⟩, "pm_meta"⟩]).map
    (·.map Manifest.pathText) = [some "::pm_core::meta", some "::pm_core::meta"] := by
  decide +kernel

/-- Among the answers of a run are a path after two failures, none for want of a path, and a path
from a file with an earlier time than what is kept. -/
theorem answers_fresh_uses :
    Honest (Option.toList none ++ Sample.uses.filterMap Step.file?) ∧
      (answers ⟨none, none⟩ Sample.uses)[3]?.map (·.map Manifest.pathText) =
        some (some "::pm_core::meta") ∧
      (answers ⟨none, none⟩ Sample.uses)[4]?.map (·.map Manifest.pathText) = some none ∧
      (answers ⟨none, none⟩ Sample.uses)[5]?.map (·.map Manifest.pathText) =
        some (some "::pm_meta") := by
  have hHonest : Honest (Option.toList none ++ Sample.uses.filterMap Step.file?) := by decide
  obtain ⟨-, hAnswers⟩ := answers_fresh none Sample.uses hHonest
  have hBack := hAnswers (Sample.uses.take 3) ⟨some Sample.facade, "pm_meta"⟩ _ rfl
  have hNone := hAnswers (Sample.uses.take 4) ⟨none, "a b"⟩ _ rfl
  have hEarlier := hAnswers (Sample.uses.take 5) ⟨some ⟨"", 3⟩, "pm_meta"⟩ [] rfl
  refine ⟨hHonest, ?_, ?_, ?_⟩
  · exact (congrArg (Option.map _) hBack).trans (by decide +kernel)
  · exact (congrArg (Option.map _) hNone).trans (by decide +kernel)
  · exact (congrArg (Option.map _) hEarlier).trans (by decide +kernel)

end Store

end Introspect.Manifest
