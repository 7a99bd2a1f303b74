import Introspect.Proofs.Manifest.Priorities

/-!
# Keys that spell paths

A dependency may have any key of letters, digits, dashes and underscores that begins with a letter
and is no reserved word. Code names the dependency by its key, with an underscore for each dash; the
path of a library is read from the key as it stands.

* `LegalKeys`: manifests all of whose dependencies have legal keys.

Main results:

* `legal_keys_spell_paths`: with legal keys a library has a path, if the key that counts has no dash.
* `dashed_key_without_path`: a key with a dash in it, and no path.
-/

namespace Introspect

open Code Toml Text

namespace Manifest

variable {document : Document} {name key facade rest : String}

/-- All dependencies in a manifest have legal keys. -/
def LegalKeys (document : Document) : Prop :=
  ∀ section_ ∈ sections, ∀ entry ∈ listed document section_, IsLegalKey entry.1

instance (document : Document) : Decidable (LegalKeys document) :=
  inferInstanceAs (Decidable (∀ section_ ∈ sections, ∀ entry ∈ listed document section_, _))

/-! ## Libraries in manifests with legal keys -/

/-- The key under which a library is found is its name or the key of some entry. -/
theorem isLegalKey_of_find (hLegal : LegalKeys document) (hName : IsLegalKey name)
    (h : find document name = .direct key) : IsLegalKey key := by
  rcases find_first document name with ⟨place, hOffer, -⟩ | ⟨-, hDirect⟩
  · rw [h] at hOffer
    obtain ⟨hSection, hLists⟩ := hOffer
    cases hLists with
    | key => exact hName
    -- it was listed by the library's own name or by the key of an entry, and both are legal
    | package hEntry =>
      exact hLegal _ (List.mem_of_getElem? hSection) _ (List.mem_of_getElem? hEntry)
  · rw [h] at hDirect
    cases hDirect
    exact hName

/-- What is found as a module of a facade has the mark of the family, and is asked for without it.
-/
theorem module_of_find (h : find document name = .module facade rest) :
    facade ∈ facades ∧ name = familyMark ++ rest := by
  rcases find_first document name with ⟨place, hOffer, -⟩ | ⟨-, hDirect⟩
  · rw [h] at hOffer
    obtain ⟨-, hLists⟩ := hOffer
    cases hLists with
    | facade hFacade _ hFamily => exact ⟨List.mem_of_getElem? hFacade, hFamily⟩
  · rw [h] at hDirect
    cases hDirect

/-- What alone is offered for a library is how it is listed. -/
theorem find_of_sole {listing : Listing} (hOffered : ∃ place, Offers document name place listing)
    (hSole : ∀ place other, Offers document name place other → other = listing) :
    find document name = listing := by
  rcases find_first document name with ⟨place, hOffer, -⟩ | ⟨hNone, -⟩
  · exact hSole place _ hOffer
  · obtain ⟨place, hOffer⟩ := hOffered
    exact absurd hOffer (hNone place listing)

/--
**With legal keys a library has a path, if the key that counts has no dash.** Only a library that
is found under a key with a dash in it has no path: one that is found under another key, or as a
module of a facade, or nowhere, has one. And if all that a manifest offers for the library is one key
without a dash, be it in one section or in both, then the path is that key.
-/
theorem legal_keys_spell_paths (hLegal : LegalKeys document) :
    (path? document "pm_meta" = none ↔
      ∃ key, find document "pm_meta" = .direct key ∧ '-' ∈ key.toList) ∧
    ∀ key, (∃ place, Offers document "pm_meta" place (.direct key)) →
      (∀ place listing, Offers document "pm_meta" place listing → listing = .direct key) →
      '-' ∉ key.toList → path? document "pm_meta" = some (marks "::" ++ [.word key]) := by
  have hName : IsLegalKey "pm_meta" := by decide
  have hDirect : ∀ key, find document "pm_meta" = .direct key →
      path? document "pm_meta" =
        if '-' ∈ key.toList then none else some (marks "::" ++ [.word key]) := by
    intro key hFind
    unfold path?
    rw [hFind]
    exact spelledPath?_of_legal (isLegalKey_of_find hLegal hName hFind)
  refine ⟨⟨?_, ?_⟩, ?_⟩
  · intro hNone
    cases hFind : find document "pm_meta" with
    | direct key =>
      rw [hDirect key hFind] at hNone
      exact ⟨key, rfl, by simpa using hNone⟩
    | module facade rest =>
      -- a facade and what the library is called in it always spell a path
      obtain ⟨hFacade, hFamily⟩ := module_of_find hFind
      have hModule : moduleName? "pm_meta" = some "meta" := by decide
      obtain rfl : "meta" = rest :=
        Option.some.inj (hModule.symm.trans (moduleName?_eq_some_iff.mpr hFamily))
      have hSegment : (scan "meta" >>= Parser.readAll segmentReader).isSome = true := by
        decide +kernel
      have hPath := path?_module hFacade "meta"
      unfold path? at hNone
      rw [← hFind, hNone] at hPath
      obtain ⟨segment, hRead⟩ := Option.isSome_iff_exists.mp hSegment
      rw [hRead] at hPath
      cases hPath
  · rintro ⟨key, hFind, hDash⟩
    rw [hDirect key hFind, if_pos hDash]
  -- nothing else is offered, so this is the key that counts
  · intro key hOffered hSole hDash
    rw [hDirect key (find_of_sole hOffered hSole), if_neg hDash]

namespace Sample

/-- A manifest that lists `pm_meta` under another key in both of its sections, beside a dependency
whose key has a dash. -/
def renamedTwice : Document :=
  ⟨[("dependencies", .table .header [plainEntry "serde-json", renamedEntry]),
    ("dev-dependencies", .table .header [renamedEntry])]⟩

/-- The text of a manifest that lists `pm_meta` under a key with a dash in it. -/
def dashedText : String := "[dependencies]\nmeta-lib = \x7b package = \"pm_meta\" \x7d\n"

end Sample

/-- The key of `pm_meta` has no dash, whatever the others have. -/
theorem legal_keys_spell_paths_renamed :
    LegalKeys Sample.renamedTwice ∧ path? Sample.renamedTwice "pm_meta" ≠ none ∧
      path? Sample.renamedTwice "pm_meta" = some (marks "::" ++ [.word "meta"]) := by
  have hLegal : LegalKeys Sample.renamedTwice := by decide
  have hEntries : ∀ section_ ∈ sections, ∀ entry ∈ listed Sample.renamedTwice section_,
      entry.1 ≠ "pm_meta" ∧ entry.1 ∉ facades ∧
        (entry.2.package? = some "pm_meta" → entry.1 = "meta") := by decide +kernel
  obtain ⟨hNone, hSole⟩ := legal_keys_spell_paths hLegal
  refine ⟨hLegal, ?_, ?_⟩
  · intro hPath
    have hFind : find Sample.renamedTwice "pm_meta" = .direct "meta" := by decide +kernel
    obtain ⟨key, hKey, hDash⟩ := hNone.mp hPath
    cases hFind.symm.trans hKey
    exact absurd hDash (by decide)
  · -- it is listed as a package, and no entry lists it in another way
    refine hSole "meta" ⟨⟨0, .package, 1⟩, .mk rfl (.package rfl (by decide +kernel))⟩ ?_ (by decide)
    rintro _ listing ⟨hSection, hLists⟩
    have hHere := hEntries _ (List.mem_of_getElem? hSection)
    cases hLists with
    | key hEntry => exact absurd rfl (hHere _ hEntry).1
    | package hEntry hPackage =>
      exact congrArg Listing.direct ((hHere _ (List.mem_of_getElem? hEntry)).2.2 hPackage)
    | facade hFacade hEntry =>
      exact absurd (List.mem_of_getElem? hFacade) (hHere _ hEntry).2.1

/-- **A legal key may spell no path**: one with a dash in it, which code would read as an
underscore. -/
theorem dashed_key_without_path :
    ¬∀ (text : String) (document : Document), Document.parse text = some document →
      LegalKeys document → ∃ path, path? document "pm_meta" = some path := by
  intro hClaim
  have hReads : (Document.parse Sample.dashedText).isSome = true := by decide +kernel
  have hLegal : ∀ document ∈ Document.parse Sample.dashedText, LegalKeys document := by
    decide +kernel
  have hNone : ∀ document ∈ Document.parse Sample.dashedText,
      (path? document "pm_meta").isNone = true := by decide +kernel
  obtain ⟨document, hDocument⟩ := Option.isSome_iff_exists.mp hReads
  -- the claim would give it a path, and it has none
  obtain ⟨path, hPath⟩ := hClaim _ document hDocument (hLegal document hDocument)
  have hMissing := hNone document hDocument
  rw [hPath] at hMissing
  cases hMissing

end Manifest

end Introspect
