import Introspect.Code.Scan
import Introspect.Proofs.Text.Cut
import Mathlib.Data.List.Basic

/-!
# Tokens of plain text

What the first token of a text is, for texts that hold no quotes, and what becomes of it: whatever
follows, the tokens that were read outside all groups stay where they are.

* `leaf?_mark`, `leaf?_word`: a punctuation mark and a word at the start of a text.
* `scanFrom_leaf`: one token is read after the other.
* `prefix_of_scanFrom`: what was read stays in front of what is read later.
-/

namespace Introspect.Code

open Text

variable {c : Char} {rest after front : List Char} {rounds : Nat}
  {open_ : List (Bracket × List Tree)} {done trees : List Tree}

/-! ## Characters of ASCII -/

/-- What holds of the first 128 characters one by one holds of all characters of ASCII. -/
theorem forall_ascii {p : Char → Prop} (h : ∀ n < 128, p (Char.ofNat n)) (hAscii : c.toNat < 128) :
    p c := by
  have hHere := h c.toNat hAscii
  rwa [Char.ofNat_toNat] at hHere

/-- Letters and digits are characters of ASCII. -/
theorem toNat_lt_of_isAlphanum (h : c.isAlphanum = true) : c.toNat < 128 := by
  have hRanges : (decide (c.val ≥ 'A'.val ∧ c.val ≤ 'Z'.val) ||
      (decide (c.val ≥ 'a'.val) && decide (c.val ≤ 'z'.val)) ||
      (decide (c.val ≥ '0'.val) && decide (c.val ≤ '9'.val))) = true := h
  simp only [UInt32.le_iff_toNat_le, Bool.or_eq_true, Bool.and_eq_true, decide_eq_true_eq]
    at hRanges
  have hCode : c.toNat = c.val.toNat := rfl
  have hUpper : 'Z'.val.toNat = 90 := rfl
  have hLower : 'z'.val.toNat = 122 := rfl
  have hNine : '9'.val.toNat = 57 := rfl
  omega

/-- A character begins no comment and no group, and parts no tokens. -/
structure BeginsToken (c : Char) : Prop where
  separator : isSeparator c = false
  slash : c ≠ '/'
  opening : opening? c = none
  closing : closing? c = none

instance (c : Char) : Decidable (BeginsToken c) :=
  decidable_of_iff (isSeparator c = false ∧ c ≠ '/' ∧ opening? c = none ∧ closing? c = none)
    ⟨fun ⟨hSeparator, hSlash, hOpening, hClosing⟩ => ⟨hSeparator, hSlash, hOpening, hClosing⟩,
      fun h => ⟨h.separator, h.slash, h.opening, h.closing⟩⟩

/-- A letter begins a token: neither a comment nor a group starts with one. -/
theorem beginsToken_of_isAlpha (h : c.isAlpha = true) : BeginsToken c := by
  have hAscii : c.toNat < 128 := toNat_lt_of_isAlphanum (by simp [Char.isAlphanum, h])
  -- the letters are few enough to look at one after the other
  exact forall_ascii (p := fun c => c.isAlpha = true → BeginsToken c) (by decide) hAscii h

/-- A letter is no punctuation mark, and no comment opens with one. -/
theorem beginsWithMark_of_isAlpha (h : c.isAlpha = true) : beginsWithMark (c :: rest) = false := by
  have hAscii : c.toNat < 128 := toNat_lt_of_isAlphanum (by simp [Char.isAlphanum, h])
  obtain ⟨hSlash, hMark⟩ : c ≠ '/' ∧ isMark c = false :=
    forall_ascii (p := fun c => c.isAlpha = true → c ≠ '/' ∧ isMark c = false) (by decide) hAscii h
  unfold beginsWithMark
  split
  all_goals simp_all

/-! ## The first token -/

/-- Without a quote there is no raw literal, whatever number of signs stands in front. -/
theorem rawLiteralEnd?_of_notMem {kind : StringKind} (hQuote : '"' ∉ rest) :
    rawLiteralEnd? kind rest = none := by
  unfold rawLiteralEnd?
  split
  · rename_i inner hInner
    -- the quote after the signs would be one of the text
    have hMem : '"' ∈ rest.dropWhile (· == '#') := hInner ▸ List.mem_cons_self
    exact absurd ((List.dropWhile_suffix _).mem hMem) hQuote
  · rfl

/-- A text that does not start with a digit is no decimal integer. -/
theorem digitsEnd?_of_not_digit (hDigit : c.isDigit = false) : digitsEnd? 10 true (c :: rest) = none := by
  -- beyond the digits, only letters stand for values, and those are ten and more
  have hLetter : ∀ digit, hexDigit? c = some digit → ¬digit < 10 := by
    intro digit hValue
    unfold hexDigit? at hValue
    rw [if_neg (by simp [hDigit])] at hValue
    split at hValue
    · cases hValue
      omega
    · split at hValue
      · cases hValue
        omega
      · cases hValue
  unfold digitsEnd?
  split
  · rfl
  · split
    · rename_i digit hValue
      simp [hLetter digit hValue]
    · rfl

/-- A text without quotes begins with a literal only if it begins with a digit. -/
theorem literalEnd?_eq_none (hQuote : '"' ∉ c :: rest) (hApostrophe : '\'' ∉ c :: rest)
    (hDigit : c.isDigit = false) : literalEnd? (c :: rest) = none := by
  -- a number has a digit first, so what is left is text, and that opens with a quote
  have hDecimal : decimalEnd? (c :: rest) = none := by simp [decimalEnd?, hDigit]
  have hInteger : integerEnd? (c :: rest) = none := by
    have hZero : c ≠ '0' := by
      rintro rfl
      exact absurd hDigit (by decide)
    unfold integerEnd?
    simp [hZero, digitsEnd?_of_not_digit hDigit]
  -- the quote of a raw literal may come behind one prefix letter or behind two
  have hRaw : ∀ {kind : StringKind}, rawLiteralEnd? kind rest = none := fun {kind} =>
    rawLiteralEnd?_of_notMem fun hMem => hQuote (List.mem_cons_of_mem c hMem)
  have hRawTail : ∀ {kind : StringKind} {tail}, rest = 'r' :: tail →
      rawLiteralEnd? kind tail = none := by
    rintro kind tail rfl
    exact rawLiteralEnd?_of_notMem fun hMem =>
      hQuote (List.mem_cons_of_mem c (List.mem_cons_of_mem _ hMem))
  unfold literalEnd?
  rw [hDecimal, hInteger]
  split <;> simp_all

/-- A punctuation mark at the start of a text without quotes. -/
theorem leaf?_mark (hMark : beginsWithMark (c :: rest) = true) (hQuote : '"' ∉ c :: rest)
    (hApostrophe : '\'' ∉ c :: rest) (hDigit : c.isDigit = false) :
    leaf? (c :: rest) = some (.mark c (beginsWithMark rest), rest) := by
  have hOther : c ≠ '\'' := by
    rintro rfl
    exact hApostrophe List.mem_cons_self
  unfold leaf?
  rw [literalEnd?_eq_none hQuote hApostrophe hDigit]
  simp [hMark, hOther]

/-- A word that is not raw goes as far as its characters may. -/
theorem word?_plain (hLetter : c.isAlpha = true)
    (hFront : ∀ d ∈ front, isIdentifierContinue d = true)
    (hAfter : ∀ d ∈ after.head?, isIdentifierContinue d = false) (hSign : '#' ∉ front ++ after) :
    word? (c :: (front ++ after)) = some (String.ofList (c :: front), after) := by
  have hEnd : wordEnd? (c :: (front ++ after)) = some after := by
    simp [wordEnd?, isIdentifierStart, hLetter, dropWhile_append_exact hFront hAfter]
  -- the word is cut by length: what is taken is what is not left over
  have hTaken : (c :: (front ++ after)).take ((c :: (front ++ after)).length - after.length) =
      c :: front := by
    show ((c :: front) ++ after).take (((c :: front) ++ after).length - after.length) = c :: front
    rw [List.length_append, Nat.add_sub_cancel, List.take_left]
  unfold word?
  split
  rename_i isRaw text hText
  split at hText
  · rename_i inner hRaw
    -- a raw word has a number sign second
    obtain ⟨-, hSecond⟩ := List.cons.inj hRaw
    exact absurd (hSecond ▸ List.mem_cons_self) hSign
  · cases hText
    simp only [hEnd, hTaken, Bool.false_and, Bool.false_eq_true, if_false]

/-- A text opens no literal if no quote and no number sign follows its first character. -/
theorem opensLiteral_eq_false (c : Char) {text : List Char}
    (hPlain : ∀ d ∈ text, d ≠ '"' ∧ d ≠ '\'' ∧ d ≠ '#') :
    (literalOpenings.any fun opening => opening.toList.isPrefixOf (c :: text)) = false := by
  -- every opening of a literal has a mark behind its first character
  have hMarked : ∀ opening ∈ literalOpenings,
      (opening.toList.tail.any fun d => d == '"' || d == '\'' || d == '#') = true := by decide
  refine List.any_eq_false.mpr fun opening hOpening hPrefix => ?_
  obtain ⟨d, hTail, hMark⟩ := List.any_eq_true.mp (hMarked opening hOpening)
  simp only [Bool.or_eq_true, beq_iff_eq, or_assoc] at hMark
  obtain ⟨more, hText⟩ := List.isPrefixOf_iff_prefix.mp hPrefix
  have hMem : d ∈ (c :: text).tail := by
    rw [← hText, List.tail_append_of_ne_nil (List.ne_nil_of_mem (List.mem_of_mem_tail hTail))]
    exact List.mem_append_left more hTail
  obtain ⟨hQuote, hApostrophe, hSign⟩ := hPlain d hMem
  rcases hMark with rfl | rfl | rfl
  · exact hQuote rfl
  · exact hApostrophe rfl
  · exact hSign rfl

/-- A word at the start of a text without quotes and number signs. -/
theorem leaf?_word (hLetter : c.isAlpha = true)
    (hFront : ∀ d ∈ front, isIdentifierContinue d = true)
    (hAfter : ∀ d ∈ after.head?, isIdentifierContinue d = false)
    (hPlain : ∀ d ∈ front ++ after, d ≠ '"' ∧ d ≠ '\'' ∧ d ≠ '#') :
    leaf? (c :: (front ++ after)) = some (.word (String.ofList (c :: front)), after) := by
  have hAscii : c.toNat < 128 := toNat_lt_of_isAlphanum (by simp [Char.isAlphanum, hLetter])
  obtain ⟨hQuote, hApostrophe, hDigit⟩ : c ≠ '"' ∧ c ≠ '\'' ∧ c.isDigit = false :=
    forall_ascii (p := fun c => c.isAlpha = true → c ≠ '"' ∧ c ≠ '\'' ∧ c.isDigit = false)
      (by decide) hAscii hLetter
  have hNoLiteral : literalEnd? (c :: (front ++ after)) = none := by
    refine literalEnd?_eq_none ?_ ?_ hDigit
    · intro hMem
      rcases List.mem_cons.mp hMem with rfl | hMem
      · exact hQuote rfl
      · exact (hPlain _ hMem).1 rfl
    · intro hMem
      rcases List.mem_cons.mp hMem with rfl | hMem
      · exact hApostrophe rfl
      · exact (hPlain _ hMem).2.1 rfl
  -- the prefix of a literal would put one of the forbidden marks behind the letter
  have hNoOpening := opensLiteral_eq_false c hPlain
  have hWord : word? (c :: (front ++ after)) = some (String.ofList (c :: front), after) :=
    word?_plain hLetter hFront hAfter fun hMem => (hPlain _ hMem).2.2 rfl
  unfold leaf?
  rw [hNoLiteral]
  simp [beginsWithMark_of_isAlpha hLetter, hNoOpening, hWord]

/-! ## One token after the other -/

theorem plainCommentEnd?_of_ne (hSlash : c ≠ '/') : plainCommentEnd? (c :: rest) = none := by
  unfold plainCommentEnd?
  split
  all_goals simp_all

theorem docComment?_of_ne (hSlash : c ≠ '/') : docComment? (c :: rest) = none := by
  unfold docComment?
  split
  all_goals simp_all

/-- A token that is read goes before those that were read. -/
theorem scanFrom_leaf {tree : Tree} (hBegins : BeginsToken c)
    (hLeaf : leaf? (c :: rest) = some (tree, after)) :
    scanFrom (rounds + 1) open_ done (c :: rest) = scanFrom rounds open_ (tree :: done) after := by
  -- nothing that is looked for before a token is found here
  conv_lhs => unfold scanFrom
  rw [if_neg (by simp [hBegins.separator]), plainCommentEnd?_of_ne hBegins.slash]
  dsimp only
  rw [docComment?_of_ne hBegins.slash]
  dsimp only
  rw [hBegins.opening, hBegins.closing]
  dsimp only
  rw [hLeaf]

/-- What was read outside all groups, the last token first. -/
def ground (open_ : List (Bracket × List Tree)) (done : List Tree) : List Tree :=
  (open_.getLast?.map (·.2)).getD done

/-- What is read inside a group does not count while the group is open. -/
theorem ground_cons (bracket : Bracket) (open_ : List (Bracket × List Tree))
    (done inner : List Tree) : ground ((bracket, done) :: open_) inner = ground open_ done := by
  unfold ground
  rw [List.getLast?_cons]
  cases open_.getLast? <;> rfl

/-- A further token stands in front of what was read, if it is read outside all groups at all. -/
theorem ground_suffix_append (open_ : List (Bracket × List Tree)) (more done : List Tree) :
    ground open_ done <:+ ground open_ (more ++ done) := by
  unfold ground
  cases open_.getLast? with
  | none => exact List.suffix_append more done
  | some outer => exact List.suffix_refl _

/-- **What was read stays in front of what is read later.** -/
theorem prefix_of_scanFrom {text : List Char} (h : scanFrom rounds open_ done text = some trees) :
    (ground open_ done).reverse <+: trees := by
  -- each round adds to what stands outside the groups, or leaves it alone
  have hAdds : ∀ {open_ : List (Bracket × List Tree)} (more done : List Tree),
      (ground open_ (more ++ done)).reverse <+: trees → (ground open_ done).reverse <+: trees :=
    fun more done hLater =>
      (List.reverse_prefix.mpr (ground_suffix_append _ more done)).trans hLater
  -- a text that ends, or cannot be read, adds nothing more
  fun_induction scanFrom rounds open_ done text with
  | case1 | case3 | case9 | case10 | case12 => cases h
  | case2 rounds open_ done hOpen =>
    cases h
    rw [List.isEmpty_iff.mp hOpen]
    exact List.prefix_refl _
  | case4 _ _ _ _ _ _ ih => exact ih h
  | case5 _ _ _ _ _ _ _ _ ih => exact ih h
  | case6 _ _ done _ _ _ _ inner isAround _ _ ih => exact hAdds _ done (ih h)
  | case7 _ open_ done _ _ _ _ _ bracket _ ih =>
    -- a group opens: what stands outside it is kept until it closes
    rw [← ground_cons bracket open_ done []]
    exact ih h
  | case8 _ done _ _ _ _ _ _ bracket opened before open_ _ _ ih =>
    rw [ground_cons]
    exact hAdds [.group bracket done.reverse] before (ih h)
  | case11 _ _ done _ _ _ _ _ _ _ tree _ _ ih => exact hAdds [tree] done (ih h)

end Introspect.Code
