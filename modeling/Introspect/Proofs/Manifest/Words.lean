import Introspect.Manifest
import Introspect.Proofs.Code.Scan
import Mathlib.Data.List.TakeWhile
import Mathlib.Data.Option.Basic

/-!
# Texts that spell paths

The path of a library is read from a text: two colons and a key, or those and a facade, two more
colons and the name of a module. A key of letters, digits, dashes and underscores that begins with a
letter and is no reserved word spells the path of that one word; a dash ends a path before its time.

* `IsLegalKey`: what may be the key of a dependency.
* `scan_word`, `pathReader_word`: the tokens of a word after two colons, and the path that they are.

Main results:

* `path?_direct`, `path?_module`: the texts that paths are read from.
* `spelledPath?_of_legal`: a legal key spells the path of that one word, or none if it has a dash.
* `pathText_direct`, `pathText_module`: the texts of the paths that legal keys spell.
-/

namespace Introspect

open Code Toml Text

/-! ## Paths of one word -/

namespace Code

variable {c : Char} {front after : List Char} {word : String} {rest trees : List Tree}

/-- A colon is read as a mark of its own, which tells whether another mark follows. -/
theorem scanFrom_colon {rounds : Nat} {open_ : List (Bracket × List Tree)} {done : List Tree}
    {text : List Char} (hQuote : '"' ∉ text) (hApostrophe : '\'' ∉ text) :
    scanFrom (rounds + 1) open_ done (':' :: text) =
      scanFrom rounds open_ (.mark ':' (beginsWithMark text) :: done) text :=
  scanFrom_leaf (by decide)
    (leaf?_mark rfl (by simp [hQuote]) (by simp [hApostrophe]) (by decide))

/-- Characters without a byte order mark before them are read as they stand. -/
theorem scan_ofList {chars : List Char} (h : chars.head? ≠ some '\ufeff') :
    scan (String.ofList chars) = scanFrom (chars.length + 1) [] [] chars := by
  unfold scan
  simp only [String.toList_ofList]
  split
  · exact absurd rfl h
  · rfl

/-- Two colons and a word are read, and then what follows. -/
theorem scan_word (hLetter : c.isAlpha = true)
    (hFront : ∀ d ∈ front, isIdentifierContinue d = true)
    (hAfter : ∀ d ∈ after.head?, isIdentifierContinue d = false)
    (hPlain : ∀ d ∈ c :: (front ++ after), d ≠ '"' ∧ d ≠ '\'' ∧ d ≠ '#') :
    scan (String.ofList (':' :: ':' :: c :: (front ++ after))) =
      scanFrom (front.length + after.length + 1) []
        [.word (String.ofList (c :: front)), .mark ':' false, .mark ':' true] after := by
  have hQuote : '"' ∉ c :: (front ++ after) := fun hMem => (hPlain _ hMem).1 rfl
  have hApostrophe : '\'' ∉ c :: (front ++ after) := fun hMem => (hPlain _ hMem).2.1 rfl
  have hNoMark : beginsWithMark (c :: (front ++ after)) = false := beginsWithMark_of_isAlpha hLetter
  -- two rounds for the colons and one for the word, and the text after it is left
  have hRounds : (':' :: ':' :: c :: (front ++ after)).length + 1 =
      front.length + after.length + 1 + 3 := by
    simp only [List.length_cons, List.length_append]
  rw [scan_ofList (by simp), hRounds,
    scanFrom_colon (by simpa using hQuote) (by simpa using hApostrophe),
    scanFrom_colon hQuote hApostrophe, hNoMark]
  exact scanFrom_leaf (beginsToken_of_isAlpha hLetter)
    (leaf?_word hLetter hFront hAfter fun d hMem => hPlain d (List.mem_cons_of_mem c hMem))

/-- A word that stands alone is one token. -/
theorem scan_word_alone (hLetter : c.isAlpha = true)
    (hFront : ∀ d ∈ front, isIdentifierContinue d = true)
    (hPlain : ∀ d ∈ c :: front, d ≠ '"' ∧ d ≠ '\'' ∧ d ≠ '#') :
    scan (String.ofList (c :: front)) = some [.word (String.ofList (c :: front))] := by
  have hUnmarked : (c :: front).head? ≠ some '\ufeff' := by
    rintro ⟨rfl⟩
    exact absurd hLetter (by decide)
  have hLeaf : leaf? (c :: (front ++ [])) = some (.word (String.ofList (c :: front)), []) :=
    leaf?_word hLetter hFront (by simp) fun d hMem =>
      hPlain d (List.mem_cons_of_mem c (by simpa using hMem))
  rw [List.append_nil] at hLeaf
  rw [scan_ofList hUnmarked, List.length_cons,
    scanFrom_leaf (beginsToken_of_isAlpha hLetter) hLeaf]
  rfl

theorem apply_pure {α : Type} (answer : α) (trees : List Tree) :
    (StateT.pure answer : Parser α) trees = some (answer, trees) := rfl

/-- A word that may stand in a path is a segment of one, where no arguments follow. -/
theorem segmentAt_word (depth : Nat) (hNoArguments : sees "<" rest = false)
    (hEnd : sees "::" rest = false) :
    segmentAt (depth + 1) false (.word word :: rest) =
      if seesSegment [.word word] then some (⟨[.word word], false, [word], true, .bare⟩, rest)
      else none := by
  have hFirst : seesSegment (.word word :: rest) = seesSegment [.word word] := rfl
  unfold segmentAt
  simp only [bind, StateT.bind, get, getThe, MonadStateOf.get, StateT.get, pure, guard,
    Option.bind_some]
  rw [hFirst]
  by_cases hSees : seesSegment [.word word] = true
  · rw [if_pos hSees, if_pos hSees]
    -- neither arguments nor colons follow, so the segment is the word however it begins
    by_cases hLeads : seesAnyWord pathWords (.word word :: rest) = true
    · simp [hLeads, apply_pure, Parser.someWord]
    · simp [hLeads, apply_pure, StateT.get, StateT.bind, Parser.someWord, hNoArguments,
        seesAfterColons, hEnd]
  · rw [if_neg hSees, if_neg hSees]
    rfl

/-- A word that may stand in a path is read as a segment of one. -/
theorem readAll_segmentReader_word (hSees : seesSegment [.word word] = true) :
    Parser.readAll segmentReader [.word word] =
      some ⟨[.word word], false, [word], true, .bare⟩ := by
  obtain ⟨depth, hDepth⟩ : ∃ depth, depthOf [.word word] = depth + 1 :=
    ⟨depthOf [.word word] - 1, by unfold depthOf; omega⟩
  unfold Parser.readAll segmentReader
  rw [hDepth, segmentAt_word depth rfl rfl, if_pos hSees]

/-- Where no colons follow, a path ends. -/
theorem moreSegmentsAt_end (depth : Nat) (path : PathForm) (hEnd : sees "::" rest = false) :
    moreSegmentsAt (depth + 1) false path rest = some (path, rest) := by
  unfold moreSegmentsAt
  simp only [bind, StateT.bind, get, getThe, MonadStateOf.get, StateT.get, pure, Option.bind_some,
    hEnd, Bool.false_and, Bool.false_eq_true, if_false]
  rfl

/-- A path of one word from the root, and what is left after it. -/
theorem pathReader_word (hNoArguments : sees "<" rest = false) (hEnd : sees "::" rest = false) :
    pathReader (marks "::" ++ .word word :: rest) =
      if seesSegment [.word word] then
        some (⟨marks "::" ++ [.word word], true, [word], true, .bare⟩, rest)
      else none := by
  -- the reader starts with more rounds than the word needs
  obtain ⟨depth, hDepth⟩ : ∃ depth, depthOf (marks "::" ++ .word word :: rest) = depth + 2 :=
    ⟨depthOf (marks "::" ++ .word word :: rest) - 2, by unfold depthOf; omega⟩
  have hColons : Parser.operator? "::" (marks "::" ++ .word word :: rest) =
      some (marks "::", .word word :: rest) := rfl
  unfold pathReader
  rw [hDepth]
  unfold pathAt
  simp only [bind, StateT.bind, hColons, Option.bind_some, segmentAt_word depth hNoArguments hEnd]
  split
  · simp only [Option.bind_some, moreSegmentsAt_end depth _ hEnd]
    rfl
  · rfl

/-- A dash ends a path, and is left over. -/
theorem readAll_pathReader_dash (joint : Bool) :
    Parser.readAll pathReader (marks "::" ++ .word word :: .mark '-' joint :: rest) = none := by
  unfold Parser.readAll
  -- the word is read and the dash is left over, so not all is read
  rw [pathReader_word rfl rfl]
  cases seesSegment [.word word] <;> rfl

end Code

namespace Manifest

variable {key facade rest : String}

/-! ## Legal keys -/

/-- What may be the key of a dependency: letters, digits, dashes and underscores of ASCII, a letter
first, and no reserved word. -/
structure IsLegalKey (key : String) : Prop where
  letter : key.toList.head?.any Char.isAlpha = true
  chars : ∀ c ∈ key.toList, c.isAlphanum = true ∨ c = '-' ∨ c = '_'
  free : key ∉ keywords

instance (key : String) : Decidable (IsLegalKey key) :=
  decidable_of_iff
    (key.toList.head?.any Char.isAlpha = true ∧
      key.toList.all (fun c => c.isAlphanum || c == '-' || c == '_') = true ∧ key ∉ keywords)
    ⟨fun ⟨hLetter, hChars, hFree⟩ =>
      ⟨hLetter, fun c hMem => by simpa [or_assoc] using List.all_eq_true.mp hChars c hMem, hFree⟩,
      fun h => ⟨h.letter,
        List.all_eq_true.mpr fun c hMem => by simpa [or_assoc] using h.chars c hMem, h.free⟩⟩

/-- A character of a legal key goes on with a word unless it is a dash. -/
theorem isIdentifierContinue_of_legal {c : Char}
    (h : c.isAlphanum = true ∨ c = '-' ∨ c = '_') :
    (isIdentifierContinue c = true ↔ c ≠ '-') ∧ c ≠ '"' ∧ c ≠ '\'' ∧ c ≠ '#' := by
  rcases h with hLetter | rfl | rfl
  · exact forall_ascii (p := fun c => c.isAlphanum = true →
      (isIdentifierContinue c = true ↔ c ≠ '-') ∧ c ≠ '"' ∧ c ≠ '\'' ∧ c ≠ '#') (by decide +kernel)
      (toNat_lt_of_isAlphanum hLetter) hLetter
  · decide +kernel
  · decide +kernel

/-- A legal key is a word up to its first dash. -/
theorem exists_word_of_legal (h : IsLegalKey key) :
    ∃ c front after, key.toList = c :: (front ++ after) ∧ c.isAlpha = true ∧
      (∀ d ∈ front, isIdentifierContinue d = true) ∧ (∀ d ∈ after.head?, d = '-') ∧
        '-' ∉ c :: front ∧ ∀ d ∈ c :: (front ++ after), d ≠ '"' ∧ d ≠ '\'' ∧ d ≠ '#' := by
  obtain ⟨c, more, hKey⟩ : ∃ c more, key.toList = c :: more := by
    cases hChars : key.toList with
    | nil => simpa [hChars] using h.letter
    | cons c more => exact ⟨c, more, rfl⟩
  have hLetter : c.isAlpha = true := by simpa [hKey] using h.letter
  have hChars : ∀ d ∈ c :: more, (isIdentifierContinue d = true ↔ d ≠ '-') ∧
      d ≠ '"' ∧ d ≠ '\'' ∧ d ≠ '#' := fun d hMem =>
    isIdentifierContinue_of_legal (h.chars d (hKey ▸ hMem))
  have hFront : ∀ d ∈ more.takeWhile isIdentifierContinue, isIdentifierContinue d = true :=
    fun d => List.mem_takeWhile_imp
  have hNoDash : '-' ∉ c :: more.takeWhile isIdentifierContinue := by
    intro hMem
    rcases List.mem_cons.mp hMem with rfl | hMem
    · exact absurd hLetter (by decide)
    · exact absurd (hFront _ hMem) (by decide +kernel)
  -- what is left of the key starts where the first character does not go on with a word
  have hSplit : more.takeWhile isIdentifierContinue ++ more.dropWhile isIdentifierContinue = more :=
    List.takeWhile_append_dropWhile
  refine ⟨c, _, _, by rw [hSplit, hKey], hLetter, hFront, ?_, hNoDash, ?_⟩
  · intro d hHead
    have hStops : isIdentifierContinue d = false := head?_dropWhile _ more d hHead
    have hMem : d ∈ more := (List.dropWhile_suffix _).mem (List.mem_of_mem_head? hHead)
    by_contra hOther
    rw [(hChars d (List.mem_cons_of_mem c hMem)).1.mpr hOther] at hStops
    cases hStops
  · rw [hSplit]
    exact fun d hMem => (hChars d hMem).2

/-- A legal key may stand in a path. -/
theorem seesSegment_of_legal (h : IsLegalKey key) : seesSegment [.word key] = true := by
  simp [seesSegment, seesName, h.free]

/-- A legal key without a dash is one token. -/
theorem scan_of_legal (h : IsLegalKey key) (hDash : '-' ∉ key.toList) :
    scan key = some [.word key] := by
  obtain ⟨c, front, after, hKey, hLetter, hFront, hAfter, -, hPlain⟩ := exists_word_of_legal h
  -- only a dash could end the word before the key ends
  obtain rfl : after = [] := by
    cases after with
    | nil => rfl
    | cons d after =>
      obtain rfl : d = '-' := hAfter d rfl
      exact absurd (by simp [hKey]) hDash
  rw [List.append_nil] at hKey hPlain
  have hWord : key = String.ofList (c :: front) := by rw [← hKey, String.ofList_toList]
  rw [hWord]
  exact scan_word_alone hLetter hFront hPlain

/-- **A legal key spells the path of that one word**, or no path if there is a dash in it. -/
theorem spelledPath?_of_legal (h : IsLegalKey key) :
    Listing.spelledPath? key =
      if '-' ∈ key.toList then none else some (marks "::" ++ [.word key]) := by
  obtain ⟨c, front, after, hKey, hLetter, hFront, hAfter, hNoDash, hPlain⟩ :=
    exists_word_of_legal h
  have hEnds : ∀ d ∈ after.head?, isIdentifierContinue d = false := by
    intro d hHead
    rw [hAfter d hHead]
    decide +kernel
  have hText : "::" ++ key = String.ofList (':' :: ':' :: c :: (front ++ after)) := by
    rw [← hKey, ← String.toList_inj, String.toList_append, String.toList_ofList,
      String.toList_ofList]
    rfl
  have hScan := scan_word hLetter hFront hEnds hPlain
  unfold Listing.spelledPath?
  rw [hText, hScan, hKey]
  -- nothing is left of a key without a dash
  cases after with
  | nil =>
    have hWord : String.ofList (c :: front) = key := by
      rw [← String.toList_inj, String.toList_ofList, hKey, List.append_nil]
    have hRead : Parser.readAll pathReader (marks "::" ++ [.word key]) =
        some ⟨marks "::" ++ [.word key], true, [key], true, .bare⟩ := by
      unfold Parser.readAll
      rw [pathReader_word rfl rfl, if_pos (seesSegment_of_legal h)]
    rw [List.append_nil, if_neg hNoDash, hWord]
    exact congrArg (Option.map PathForm.tokens) hRead
  | cons d after =>
    -- what ends the word is a dash, and it stays in front of whatever is read behind it
    obtain rfl : d = '-' := hAfter d rfl
    have hLeaf : leaf? ('-' :: after) = some (.mark '-' (beginsWithMark after), after) :=
      leaf?_mark rfl (fun hMem => (hPlain _ (by simp [hMem])).1 rfl)
        (fun hMem => (hPlain _ (by simp [hMem])).2.1 rfl) (by decide)
    rw [if_pos (by simp), List.length_cons, scanFrom_leaf (by decide) hLeaf]
    cases hTrees : scanFrom (front.length + (after.length + 1)) [] _ after with
    | none => rfl
    | some trees =>
      obtain ⟨more, rfl⟩ := prefix_of_scanFrom hTrees
      exact congrArg (Option.map PathForm.tokens) (readAll_pathReader_dash _)

/-! ## Texts of paths -/

theorem pathText_append (path more : List Tree) :
    pathText (path ++ more) = pathText path ++ pathText more := by
  unfold pathText
  rw [List.map_append, String.join_append]

theorem pathText_colons : pathText (marks "::") = "::" := by
  decide +kernel

theorem pathText_word (word : String) : pathText [.word word] = word := by
  simp [pathText, Tree.text]

/-- The path of a library that is listed under a key is read from the key behind two colons. -/
theorem path?_direct (key : String) :
    (Listing.direct key).path?.map pathText =
      (scan ("::" ++ key) >>= Parser.readAll pathReader).map fun path => pathText path.tokens := by
  unfold Listing.path? Listing.spelledPath?
  rw [Option.map_map]
  rfl

/-- What a legal key without a dash spells has the key behind two colons for its text. -/
theorem pathText_direct (hLegal : IsLegalKey key) (hDash : '-' ∉ key.toList) :
    (Listing.direct key).path?.map pathText = some ("::" ++ key) := by
  rw [Listing.path?, spelledPath?_of_legal hLegal, if_neg hDash, Option.map_some, pathText_append,
    pathText_colons, pathText_word]

/-- The path of a module begins with its facade. -/
theorem path?_module (h : facade ∈ facades) (rest : String) :
    (Listing.module facade rest).path?.map pathText =
      (scan rest >>= Parser.readAll segmentReader).map fun segment =>
        "::" ++ facade ++ "::" ++ pathText segment.tokens := by
  -- there are two facades, and both are legal keys
  have hFacade : (Listing.spelledPath? facade).map pathText = some ("::" ++ facade) := by
    rcases List.mem_pair.mp h with rfl | rfl
    · exact pathText_direct (by decide) (by decide)
    · exact pathText_direct (by decide) (by decide)
  obtain ⟨path, hPath, hText⟩ := Option.map_eq_some_iff.mp hFacade
  rw [Listing.path?, hPath]
  cases scan rest >>= Parser.readAll segmentReader with
  | none => rfl
  | some segment =>
    show some (pathText (path ++ marks "::" ++ segment.tokens)) = _
    rw [pathText_append, pathText_append, hText, pathText_colons]
    rfl

/-- A module whose name is a legal key without a dash has that name for the end of its text. -/
theorem pathText_module (hFacade : facade ∈ facades) (hLegal : IsLegalKey rest)
    (hDash : '-' ∉ rest.toList) :
    (Listing.module facade rest).path?.map pathText = some ("::" ++ facade ++ "::" ++ rest) := by
  have hScan : scan rest = some [.word rest] := scan_of_legal hLegal hDash
  rw [path?_module hFacade, hScan, Option.bind_eq_bind, Option.bind_some,
    readAll_segmentReader_word (seesSegment_of_legal hLegal), Option.map_some, pathText_word]

end Manifest

end Introspect
