import Introspect.Proofs.Manifest.Words
import Mathlib.Data.List.Basic

/-!
# Which entry of a manifest counts

A manifest may list a library more than once: under its name, as the package of other keys, and
through facades, among the ordinary dependencies and among those for development. One place counts,
and all other entries might as well not be there.

* `Place`: where a manifest may list a library; `Place.Before`: which of two places counts.
* `Offers`: what a manifest offers for a library at a place.
* `relevant`: the entries of a section that have to do with a library.

Main results:

* `find_first`: the offer of the first place counts.
* `findIn?_relevant`: the other entries of a section are of no account.
* `listed_by_first_offer`: both, for the path of a library or for its not having one.
-/

namespace Introspect

open Code Toml

namespace Manifest

variable {document other : Document} {entries : Entries} {name key rest : String}
  {listing : Listing}

/-! ## What a section offers -/

/-- Why a section lists a library. -/
inductive Reason where
  /-- An entry has the name of the library as its key. -/
  | key
  /-- An entry has it as its package. -/
  | package
  /-- There is a facade that has it as a module. -/
  | facade

namespace Reason

/-- The reasons, the strongest first. -/
def all : List Reason := [.key, .package, .facade]

/-- How many reasons are stronger. -/
def rank : Reason → Nat
  | .key => 0
  | .package => 1
  | .facade => 2

theorem mem_all (reason : Reason) : reason ∈ all := by
  cases reason <;> simp [all]

/-- What is found for one reason after the other is found for the strongest that there is. -/
theorem of_findSome?_all {α : Type} {search : Reason → Option α} {found : α}
    (h : all.findSome? search = some found) :
    ∃ reason, search reason = some found ∧
      ∀ other, search other = none ∨ other = reason ∨ reason.rank < other.rank := by
  -- by the first reason for which anything is found; for the ones before it there is nothing
  unfold all at h
  rw [List.findSome?_cons, List.findSome?_cons, List.findSome?_cons, List.findSome?_nil] at h
  cases hKey : search .key with
  | some held =>
    rw [hKey] at h
    refine ⟨.key, hKey.trans h, fun other => ?_⟩
    cases other <;> simp [rank]
  | none =>
    rw [hKey] at h
    cases hPackage : search .package with
    | some held =>
      rw [hPackage] at h
      refine ⟨.package, hPackage.trans h, fun other => ?_⟩
      cases other <;> simp [rank, hKey]
    | none =>
      rw [hPackage] at h
      cases hFacade : search .facade with
      | some held =>
        rw [hFacade] at h
        refine ⟨.facade, hFacade.trans h, fun other => ?_⟩
        cases other <;> simp [hKey, hPackage]
      | none =>
        rw [hFacade] at h
        cases h

end Reason

/-- What a section offers for a library, and why. Packages are told apart by the positions of their
entries, and facades by how much they are preferred. -/
inductive Lists (entries : Entries) (name : String) : Reason → Nat → Listing → Prop where
  | key {item : Item} (hEntry : (name, item) ∈ entries) : Lists entries name .key 0 (.direct name)
  | package {position : Nat} {key : String} {item : Item}
      (hEntry : entries[position]? = some (key, item)) (hPackage : item.package? = some name) :
      Lists entries name .package position (.direct key)
  | facade {order : Nat} {facade rest : String} {item : Item}
      (hFacade : facades[order]? = some facade) (hEntry : (facade, item) ∈ entries)
      (hName : name = familyMark ++ rest) :
      Lists entries name .facade order (.module facade rest)

/-- One place of a section has one offer. -/
theorem Lists.eq {reason : Reason} {position : Nat} {listing' : Listing}
    (h : Lists entries name reason position listing)
    (h' : Lists entries name reason position listing') : listing = listing' := by
  -- in the same place both are offered for the same reason
  cases h with
  | key => cases h'; rfl
  | package hEntry =>
    cases h' with
    | package hEntry' =>
      rw [hEntry] at hEntry'
      cases hEntry'
      rfl
  | facade hFacade _ hName =>
    cases h' with
    | facade hFacade' _ hName' =>
      rw [hFacade] at hFacade'
      cases hFacade'
      -- both names begin with the mark of the family, and so go on alike
      have hRest := hName.symm.trans hName'
      rw [← String.toList_inj, String.toList_append, String.toList_append,
        List.append_cancel_left_eq, String.toList_inj] at hRest
      rw [hRest]

/-- The name of a module is what follows the mark of the family. -/
theorem moduleName?_eq_some_iff : moduleName? name = some rest ↔ name = familyMark ++ rest := by
  unfold moduleName?
  simp only [Option.ite_none_right_eq_some, List.isPrefixOf_iff_prefix, Option.some.injEq]
  constructor
  · rintro ⟨⟨tail, hTail⟩, rfl⟩
    rw [← String.toList_inj, String.toList_append, String.toList_ofList, ← hTail,
      List.drop_left]
  · rintro rfl
    rw [String.toList_append, List.drop_left, String.ofList_toList]
    exact ⟨List.prefix_append _ _, rfl⟩

/-- A key is found where some entry has it. -/
theorem isSome_lookup_iff : (entries.lookup key).isSome = true ↔ ∃ item, (key, item) ∈ entries := by
  rw [List.lookup_isSome_iff]
  constructor
  · rintro ⟨⟨held, item⟩, hEntry, hKey⟩
    exact ⟨item, eq_of_beq hKey ▸ hEntry⟩
  · rintro ⟨item, hEntry⟩
    exact ⟨(key, item), hEntry, beq_self_eq_true key⟩

/-- What is found first in a list stands somewhere, and nothing else that passes stands before. -/
theorem first_of_find? {α : Type} {items : List α} {test : α → Bool} {found : α}
    (h : items.find? test = some found) :
    test found = true ∧ ∃ position, items[position]? = some found ∧
      ∀ (order : Nat) item, items[order]? = some item → test item = true → position ≤ order := by
  obtain ⟨hTest, position, hPosition, rfl, hBefore⟩ := List.find?_eq_some_iff_getElem.mp h
  -- what stands before what was found has failed the test
  refine ⟨hTest, position, List.getElem?_eq_getElem hPosition, ?_⟩
  intro order item hItem hPasses
  by_contra hEarlier
  have hFails := hBefore order (by omega)
  obtain ⟨_, rfl⟩ := List.getElem?_eq_some_iff.mp hItem
  rw [hPasses] at hFails
  cases hFails

/-! ## The first offer -/

/-- What a section offers first for one reason. -/
def offer? (entries : Entries) (name : String) : Reason → Option Listing
  | .key => if (entries.lookup name).isSome then some (.direct name) else none
  | .package =>
    (entries.find? (·.2.package? == some name)).map fun (key, _) => .direct key
  | .facade => do
    let rest ← moduleName? name
    let facade ← facades.find? fun facade => (entries.lookup facade).isSome
    return .module facade rest

/-- A facade is offered to modules of the family, and it is the preferred one of those listed. -/
theorem offer?_facade_eq_some_iff : offer? entries name .facade = some listing ↔
    ∃ rest facade, name = familyMark ++ rest ∧
      facades.find? (fun facade => (entries.lookup facade).isSome) = some facade ∧
      listing = .module facade rest := by
  simp only [offer?, Option.bind_eq_bind, Option.bind_eq_some_iff, moduleName?_eq_some_iff]
  constructor
  · rintro ⟨rest, hName, facade, hFacade, hListing⟩
    cases hListing
    exact ⟨rest, facade, hName, hFacade, rfl⟩
  · rintro ⟨rest, facade, hName, hFacade, rfl⟩
    exact ⟨rest, hName, facade, hFacade, rfl⟩

/-- What is offered first for a reason is offered, and nothing before it. -/
theorem of_offer?_eq_some {reason : Reason} (h : offer? entries name reason = some listing) :
    ∃ position, Lists entries name reason position listing ∧
      ∀ position' listing', Lists entries name reason position' listing' →
        position ≤ position' := by
  -- by the reason, for which the section is searched in its own way
  cases reason with
  | key =>
    simp only [offer?, Option.ite_none_right_eq_some, Option.some.injEq] at h
    obtain ⟨hKey, rfl⟩ := h
    obtain ⟨item, hEntry⟩ := isSome_lookup_iff.mp hKey
    exact ⟨0, .key hEntry, fun position' _ _ => Nat.zero_le position'⟩
  | package =>
    obtain ⟨entry, hFound, rfl⟩ := Option.map_eq_some_iff.mp h
    obtain ⟨hSame, position, hEntry, hFirst⟩ := first_of_find? hFound
    refine ⟨position, .package hEntry (eq_of_beq hSame), ?_⟩
    rintro position' _ (_ | ⟨hOther, hOtherSame⟩)
    exact hFirst _ _ hOther (beq_iff_eq.mpr hOtherSame)
  | facade =>
    obtain ⟨rest, facade, hName, hFound, rfl⟩ := offer?_facade_eq_some_iff.mp h
    obtain ⟨hHas, order, hFacade, hFirst⟩ := first_of_find? hFound
    obtain ⟨item, hEntry⟩ := isSome_lookup_iff.mp hHas
    refine ⟨order, .facade hFacade hEntry hName, ?_⟩
    rintro position' _ (_ | _ | ⟨hOther, hOtherEntry, -⟩)
    exact hFirst _ _ hOther (isSome_lookup_iff.mpr ⟨_, hOtherEntry⟩)

/-- Where nothing is offered first for a reason, nothing is offered. -/
theorem not_lists_of_offer?_eq_none {reason : Reason} {position : Nat}
    (h : offer? entries name reason = none) : ¬Lists entries name reason position listing := by
  rintro (hEntry | ⟨hEntry, hSame⟩ | ⟨hFacade, hEntry, hName⟩)
  · -- the library's own entry would be found
    have hKey : (entries.lookup name).isSome = true := isSome_lookup_iff.mpr ⟨_, hEntry⟩
    simp [offer?, hKey] at h
  · -- its package would be found
    have hFails := List.find?_eq_none.mp (Option.map_eq_none_iff.mp h) _
      (List.mem_of_getElem? hEntry)
    exact hFails (beq_iff_eq.mpr hSame)
  · -- some facade is found then, be it another one
    have hFound : (facades.find? fun facade => (entries.lookup facade).isSome).isSome = true :=
      List.find?_isSome.mpr
        ⟨_, List.mem_of_getElem? hFacade, isSome_lookup_iff.mpr ⟨_, hEntry⟩⟩
    obtain ⟨first, hFirst⟩ := Option.isSome_iff_exists.mp hFound
    have hSome := offer?_facade_eq_some_iff.mpr ⟨_, first, hName, hFirst, rfl⟩
    rw [h] at hSome
    cases hSome

/-- A section is searched for one reason after the other. -/
theorem findIn?_eq (entries : Entries) (name : String) :
    findIn? entries name = Reason.all.findSome? (offer? entries name) := by
  unfold findIn? Reason.all
  rw [List.findSome?_cons, List.findSome?_cons, List.findSome?_cons, List.findSome?_nil]
  -- the search stops at the first reason that has an offer
  by_cases hKey : (entries.lookup name).isSome
  · have hOffer : offer? entries name .key = some (.direct name) := if_pos hKey
    rw [if_pos hKey, hOffer]
  · have hNoKey : offer? entries name .key = none := if_neg hKey
    rw [if_neg hKey, hNoKey]
    cases hPackage : entries.find? (·.2.package? == some name) with
    | some entry =>
      have hOffer : offer? entries name .package = some (.direct entry.1) :=
        congrArg (Option.map _) hPackage
      rw [hOffer]
    | none =>
      have hNoPackage : offer? entries name .package = none := congrArg (Option.map _) hPackage
      rw [hNoPackage]
      dsimp only
      have hFacade : offer? entries name .facade = (do
          let module_ ← moduleName? name
          let facade ← facades.find? fun facade => (entries.lookup facade).isSome
          return .module facade module_) := rfl
      rw [← hFacade]
      cases offer? entries name .facade <;> rfl

/-! ## The sections of a manifest -/

/-- The entries of a section. What is no table has none. -/
def listed (document : Document) (section_ : String) : Entries :=
  (section? document section_).getD []

/-- Where a manifest may list a library: in one of its sections, for a reason, and at a position. -/
structure Place where
  section_ : Nat
  reason : Reason
  position : Nat

/-- Places are ordered by their sections, within these by their reasons, and then by their
positions. -/
def Place.Before (place later : Place) : Prop :=
  place.section_ < later.section_ ∨
    place.section_ = later.section_ ∧
      (place.reason.rank < later.reason.rank ∨
        place.reason = later.reason ∧ place.position < later.position)

/-- What a manifest offers for a library at a place. -/
inductive Offers (document : Document) (name : String) : Place → Listing → Prop where
  | mk {index : Nat} {section_ : String} {reason : Reason} {position : Nat} {listing : Listing}
      (hSection : sections[index]? = some section_)
      (hLists : Lists (listed document section_) name reason position listing) :
      Offers document name ⟨index, reason, position⟩ listing

/-- A library is what the first section with an offer for it gives, and its own name otherwise. -/
theorem find_eq (document : Document) (name : String) :
    find document name =
      (sections.findSome? fun section_ => findIn? (listed document section_) name).getD
        (.direct name) := by
  have hSame : ∀ section_, (section? document section_ >>= (findIn? · name)) =
      findIn? (listed document section_) name := by
    intro section_
    unfold listed
    cases section? document section_ with
    | some entries => rfl
    | none =>
      -- no entries, no offers
      have hNoFacade : facades.find? (fun _ => false) = none := rfl
      have hEmpty : findIn? [] name = none := by simp [findIn?, hNoFacade]
      exact hEmpty.symm
  unfold find
  simp only [hSame]

/-- **The offer of the first place counts**; a library that is offered nowhere goes by its name. -/
theorem find_first (document : Document) (name : String) :
    (∃ place, Offers document name place (find document name) ∧
      ∀ other listing, Offers document name other listing →
        place.Before other ∨ other = place ∧ listing = find document name) ∨
    (∀ place listing, ¬Offers document name place listing) ∧
      find document name = .direct name := by
  rw [find_eq]
  cases hFind : sections.findSome? fun section_ => findIn? (listed document section_) name with
  -- no section has an offer, for whatever reason
  | none =>
    refine .inr ⟨?_, rfl⟩
    rintro _ listing ⟨hSection, hLists⟩
    have hNone := List.findSome?_eq_none_iff.mp hFind _ (List.mem_of_getElem? hSection)
    rw [findIn?_eq] at hNone
    refine not_lists_of_offer?_eq_none (List.findSome?_eq_none_iff.mp hNone _ ?_) hLists
    exact Reason.mem_all _
  | some found =>
    -- the first section with an offer, its strongest reason, and the first position for that
    obtain ⟨low, section_, high, hSections, hFound, hLow⟩ := List.findSome?_eq_some_iff.mp hFind
    rw [findIn?_eq] at hFound
    obtain ⟨reason, hOffer, hStrongest⟩ := Reason.of_findSome?_all hFound
    obtain ⟨position, hLists, hFirst⟩ := of_offer?_eq_some hOffer
    have hSection : sections[low.length]? = some section_ := by
      rw [hSections]
      simp
    refine .inl ⟨⟨low.length, reason, position⟩, .mk hSection hLists, ?_⟩
    rintro _ listing (@⟨index, other, reason', position', _, hOther, hOtherLists⟩)
    rcases Nat.lt_trichotomy index low.length with hLower | rfl | hHigher
    · -- nothing is found in the sections before
      have hMem : other ∈ low := by
        rw [hSections, List.getElem?_append_left hLower] at hOther
        exact List.mem_of_getElem? hOther
      have hNone := hLow other hMem
      rw [findIn?_eq] at hNone
      have hNoOffer := List.findSome?_eq_none_iff.mp hNone reason' reason'.mem_all
      exact absurd hOtherLists (not_lists_of_offer?_eq_none hNoOffer)
    · -- another offer of the same section
      obtain rfl : section_ = other := Option.some.inj (hSection.symm.trans hOther)
      rcases hStrongest reason' with hNone | rfl | hWeaker
      · -- there is no offer for that reason
        exact absurd hOtherLists (not_lists_of_offer?_eq_none hNone)
      · -- an offer for the same reason stands farther back, or is the same one
        rcases Nat.eq_or_lt_of_le (hFirst _ _ hOtherLists) with rfl | hLater
        · exact .inr ⟨rfl, hOtherLists.eq hLists⟩
        · exact .inl (.inr ⟨rfl, .inr ⟨rfl, hLater⟩⟩)
      · -- an offer for a weaker reason comes later
        exact .inl (.inr ⟨rfl, .inl hWeaker⟩)
    · -- an offer of a later section comes later
      exact .inl (.inl hHigher)

/-! ## Entries that do not matter -/

/-- The entries that have to do with a library: its own, those of the facades, and those whose package
it is. -/
def relevant (name : String) (entry : String × Item) : Bool :=
  entry.1 == name || facades.contains entry.1 || entry.2.package? == some name

/-- Other entries hide no key of a library or a facade. -/
theorem isSome_lookup_relevant (hKey : key = name ∨ key ∈ facades) :
    ((entries.filter (relevant name)).lookup key).isSome = (entries.lookup key).isSome := by
  rw [Bool.eq_iff_iff, isSome_lookup_iff, isSome_lookup_iff]
  refine exists_congr fun item => ?_
  rw [List.mem_filter, and_iff_left_iff_imp]
  intro _
  rcases hKey with rfl | hFacade
  · -- an entry with the library's name is relevant for its key
    simp [relevant]
  · -- the entries of facades are relevant for theirs
    simp [relevant, hFacade]

/-- **The other entries of a section are of no account**, wherever they stand. -/
theorem findIn?_relevant (entries : Entries) (name : String) :
    findIn? (entries.filter (relevant name)) name = findIn? entries name := by
  have hPackage : (entries.filter (relevant name)).find? (·.2.package? == some name) =
      entries.find? (·.2.package? == some name) := by
    -- an entry with the package is relevant for that
    rw [List.find?_filter]
    congr 1
    funext entry
    rw [Bool.eq_iff_iff, decide_eq_true_iff, and_iff_right_iff_imp]
    intro hSame
    simp [relevant, hSame]
  have hFacade : (facades.find? fun facade =>
        ((entries.filter (relevant name)).lookup facade).isSome) =
      facades.find? fun facade => (entries.lookup facade).isSome := by
    have hSame : ∀ facade ∈ facades, ((entries.filter (relevant name)).lookup facade).isSome =
        (entries.lookup facade).isSome := fun facade hMem => isSome_lookup_relevant (.inr hMem)
    unfold facades at hSame ⊢
    simp only [List.find?_cons, List.find?_nil, hSame "pm_core" (by decide), hSame "pm" (by decide)]
  unfold findIn?
  rw [isSome_lookup_relevant (.inl rfl), hPackage, hFacade]

/-- Manifests with the same entries for a library list it in the same way. -/
theorem find_congr (h : ∀ section_ ∈ sections,
    (listed document section_).filter (relevant name) =
      (listed other section_).filter (relevant name)) :
    find document name = find other name := by
  rw [find_eq, find_eq]
  -- section for section the same is found
  have hSame : (sections.map fun section_ => findIn? (listed document section_) name) =
      sections.map fun section_ => findIn? (listed other section_) name := by
    refine List.map_congr_left fun section_ hMem => ?_
    rw [← findIn?_relevant, h section_ hMem, findIn?_relevant]
  have hFound := congrArg (List.findSome? id) hSame
  rw [List.findSome?_map, List.findSome?_map] at hFound
  exact congrArg (Option.getD · _) hFound

/-! ## The main result -/

/--
**Which entry of a manifest counts.** A manifest offers a library at some places, if at any: in its
sections, the ordinary dependencies before those for development; in a section by an entry with its
name, by an entry with its package, or by a facade, in this order; and among packages by the first
entry, among facades by the preferred one. The first of these places counts, and a library that is
offered nowhere goes by its own name. The path is read from what counts: from two colons and the
key, or from a facade and the name of the module under it, and these are its text where the key or
the name is a plain word. So the path of a library, or its having none, depends on nothing in a manifest but the
entries of both sections that are relevant to it, and on the order of these.
-/
theorem listed_by_first_offer (document : Document) (name : String) :
    path? document name = (find document name).path? ∧
    ((∃ place, Offers document name place (find document name) ∧
        ∀ other listing, Offers document name other listing →
          place.Before other ∨ other = place ∧ listing = find document name) ∨
      (∀ place listing, ¬Offers document name place listing) ∧
        find document name = .direct name) ∧
    (∀ key,
      (Listing.direct key).path?.map pathText =
        ((scan ("::" ++ key) >>= Parser.readAll pathReader).map fun path => pathText path.tokens) ∧
      (IsLegalKey key → '-' ∉ key.toList →
        (Listing.direct key).path?.map pathText = some ("::" ++ key))) ∧
    (∀ facade ∈ facades, ∀ rest,
      (Listing.module facade rest).path?.map pathText =
        ((scan rest >>= Parser.readAll segmentReader).map fun segment =>
          "::" ++ facade ++ "::" ++ pathText segment.tokens) ∧
      (IsLegalKey rest → '-' ∉ rest.toList →
        (Listing.module facade rest).path?.map pathText =
          some ("::" ++ facade ++ "::" ++ rest))) ∧
    ∀ other : Document,
      (∀ section_ ∈ sections, (listed document section_).filter (relevant name) =
        (listed other section_).filter (relevant name)) →
      path? document name = path? other name := by
  refine ⟨rfl, find_first document name, fun key => ⟨path?_direct key, pathText_direct⟩,
    fun facade hFacade rest => ⟨path?_module hFacade rest, pathText_module hFacade⟩,
    fun other hSame => ?_⟩
  unfold path?
  rw [find_congr hSame]

namespace Sample

/-- An entry that gives nothing but a version. -/
def plainEntry (key : String) : String × Item := (key, .value (.text "1"))

/-- An entry for `pm_meta` under another key. -/
def renamedEntry : String × Item :=
  ("meta", .value (.table false [("package", .text "pm_meta"), ("version", .text "1")]))

/-- A manifest that lists `pm_meta` by its package before a facade, and by its name for development. -/
def listings : Document :=
  ⟨[("dependencies", .table .header [plainEntry "pm_core", plainEntry "log", renamedEntry]),
    ("dev-dependencies", .table .header [plainEntry "pm_meta"])]⟩

/-- The same entries for `pm_meta` among others. -/
def moreListings : Document :=
  ⟨[("package", .table .header [("name", .value (.text "pm_meta"))]),
    ("dev-dependencies", .table .header [plainEntry "log", plainEntry "pm_meta"]),
    ("dependencies", .table .header [plainEntry "serde", plainEntry "pm_core", renamedEntry])]⟩

end Sample

/-- The package counts, be there a facade before it and the name among the dependencies for
development, and so the path is the key of the package; what else is listed makes no difference.
Another library of the family is a module of the facade, and one that is not listed goes by its own
name. -/
theorem listed_by_first_offer_meta :
    (path? Sample.listings "pm_meta").map pathText = some "::meta" ∧
    (∃ place, Offers Sample.listings "pm_meta" place (.direct "meta") ∧
      ∀ other listing, Offers Sample.listings "pm_meta" other listing →
        place.Before other ∨ other = place ∧ listing = .direct "meta") ∧
    path? Sample.moreListings "pm_meta" = path? Sample.listings "pm_meta" ∧
    (path? Sample.listings "pm_utils").map pathText = some "::pm_core::utils" ∧
    (path? Sample.listings "serde").map pathText = some "::serde" := by
  have hFind : find Sample.listings "pm_meta" = .direct "meta" := by decide +kernel
  have hModule : find Sample.listings "pm_utils" = .module "pm_core" "utils" := by decide +kernel
  have hNowhere : find Sample.listings "serde" = .direct "serde" := by decide +kernel
  obtain ⟨hPath, hOffers, hDirect, -, -⟩ := listed_by_first_offer Sample.listings "pm_meta"
  obtain ⟨-, -, -, -, hSame⟩ := listed_by_first_offer Sample.moreListings "pm_meta"
  obtain ⟨hModulePath, -, -, hFacades, -⟩ := listed_by_first_offer Sample.listings "pm_utils"
  obtain ⟨hOwnPath, -, hOwn, -, -⟩ := listed_by_first_offer Sample.listings "serde"
  refine ⟨?_, ?_, hSame _ fun section_ hMem => ?_, ?_, ?_⟩
  · rw [hPath, hFind]
    exact (hDirect "meta").2 (by decide) (by decide)
  · rcases hOffers with hFirst | ⟨hNone, -⟩
    · rwa [hFind] at hFirst
    · exact absurd (.mk rfl (.key List.mem_cons_self)) (hNone ⟨1, .key, 0⟩ (.direct "pm_meta"))
  · -- either section holds the same entries for `pm_meta`
    rcases List.mem_pair.mp hMem with rfl | rfl
    · rfl
    · rfl
  · rw [hModulePath, hModule]
    exact (hFacades "pm_core" (by decide) "utils").2 (by decide) (by decide)
  · rw [hOwnPath, hNowhere]
    exact (hOwn "serde").2 (by decide) (by decide)

end Manifest

end Introspect
