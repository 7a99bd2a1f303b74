import Introspect.Code.Literal
import Introspect.Proofs.Text.Cut
import Mathlib.Data.List.Basic

/-!
# Written texts are read back

A text may hold any characters. As a literal it is written with escapes, some of them codes of one
to six hexadecimal digits between braces, and a zero character is written in full where the digit
after it would be read with it.

* `stringText?_quotedLiteral`: the literal of a text stands for that text.
* `quotedLiteral_injective`: no two texts have the same literal.
-/

namespace Introspect.Code

open Text

/-! ## Codes of characters -/

theorem hexDigit?_digitChar : ∀ digit < 16, hexDigit? digit.digitChar = some digit := by decide

/-- A last digit goes behind the value of those before it. -/
theorem hexValue?_concat (digits : List Char) (last : Char) :
    hexValue? (digits ++ [last]) =
      (hexValue? digits).bind fun value => (hexDigit? last).map (16 * value + ·) := by
  unfold hexValue?
  rw [List.foldlM_append]
  cases digits.foldlM (fun value c => (hexDigit? c).map (16 * value + ·)) 0 with
  | none => rfl
  | some value =>
    simp only [Option.bind_eq_bind, Option.bind_some, List.foldlM_cons, List.foldlM_nil]
    cases hexDigit? last <;> rfl

/-- The digits of a number stand for it. -/
theorem hexValue?_toDigits (n : Nat) : hexValue? (Nat.toDigits 16 n) = some n := by
  -- digits are written from the right, so this is induction on what is left of the number
  induction n using Nat.strongRecOn with
  | ind n ih =>
    rw [Nat.toDigits_eq_if (by decide)]
    split
    · rename_i hSmall
      simp [hexValue?, hexDigit?_digitChar n hSmall]
    · rename_i hLarge
      rw [hexValue?_concat, ih (n / 16) (by omega),
        hexDigit?_digitChar _ (Nat.mod_lt n (by decide))]
      simp only [Option.bind_some, Option.map_some, Option.some.injEq]
      omega

/-- A number is written with hexadecimal digits only. -/
theorem exists_digit_of_mem_toDigits {n : Nat} {c : Char} (h : c ∈ Nat.toDigits 16 n) :
    ∃ digit < 16, c = digit.digitChar := by
  induction n using Nat.strongRecOn with
  | ind n ih =>
    rw [Nat.toDigits_eq_if (by decide)] at h
    split at h
    · rename_i hSmall
      exact ⟨n, hSmall, List.mem_singleton.mp h⟩
    · rename_i hLarge
      rcases List.mem_append.mp h with hFront | hLast
      · exact ih (n / 16) (by omega) hFront
      · exact ⟨n % 16, Nat.mod_lt n (by decide), List.mem_singleton.mp hLast⟩

/-- A written number has neither an underscore nor a closing brace, so it ends where its brace does.
-/
theorem plain_of_mem_toDigits {n : Nat} {c : Char} (h : c ∈ Nat.toDigits 16 n) :
    c ≠ '_' ∧ c ≠ '\x7d' := by
  have hPlain : ∀ digit < 16, digit.digitChar ≠ '_' ∧ digit.digitChar ≠ '\x7d' := by decide
  obtain ⟨digit, hDigit, rfl⟩ := exists_digit_of_mem_toDigits h
  exact hPlain digit hDigit

/-- Every character has a code of its own. -/
theorem charOfCode?_toNat (c : Char) : charOfCode? c.toNat = some c := by
  have hValid : c.toNat.isValidChar := c.valid
  unfold charOfCode?
  rw [dif_pos hValid]
  rfl

/-- The digits of a character's code stand for the character. -/
theorem codedChar?_toDigits (c : Char) : codedChar? (Nat.toDigits 16 c.toNat) = some c := by
  have hStart : (Nat.toDigits 16 c.toNat).head? ≠ some '_' := fun h =>
    (plain_of_mem_toDigits (List.mem_of_mem_head? h)).1 rfl
  have hDigits : (Nat.toDigits 16 c.toNat).filter (· != '_') = Nat.toDigits 16 c.toNat :=
    List.filter_eq_self.mpr fun digit hMem => bne_iff_ne.mpr (plain_of_mem_toDigits hMem).1
  -- six digits are enough, since codes end below 0x110000
  have hFew : (Nat.toDigits 16 c.toNat).length ≤ 6 := by
    rw [Nat.length_toDigits_le_iff (by decide) (by decide)]
    have hValid : c.toNat.isValidChar := c.valid
    unfold Nat.isValidChar at hValid
    omega
  unfold codedChar?
  simp only [beq_iff_eq, hStart, if_false, hDigits, List.isEmpty_iff, Nat.toDigits_ne_nil,
    Bool.or_eq_true, decide_eq_true_eq, false_or, Nat.not_lt.mpr hFew, hexValue?_toDigits]
  exact charOfCode?_toNat c

/-! ## Texts -/

/-- A character that is written by its code is read back. -/
theorem cookedText?_codeEscape (c : Char) (rest : List Char) :
    cookedText? (codeEscape c ++ rest) = (cookedText? rest).map (c :: ·) := by
  -- the code ends at the first closing brace, which none of the digits is
  have hInside : '\x7d' ∉ Nat.toDigits 16 c.toNat := fun hMem => (plain_of_mem_toDigits hMem).2 rfl
  have hTaken : (Nat.toDigits 16 c.toNat ++ '\x7d' :: rest).takeWhile (· != '\x7d') =
      Nat.toDigits 16 c.toNat := takeWhile_ne_append hInside (by simp)
  have hLeft : (Nat.toDigits 16 c.toNat ++ '\x7d' :: rest).dropWhile (· != '\x7d') =
      '\x7d' :: rest := dropWhile_ne_append hInside (by simp)
  have hWritten : codeEscape c ++ rest =
      '\\' :: 'u' :: '\x7b' :: (Nat.toDigits 16 c.toNat ++ '\x7d' :: rest) := by
    simp [codeEscape]
  rw [hWritten, cookedText?]
  simp only [hTaken, codedChar?_toDigits, hLeft, List.drop_one, List.tail_cons]

/-- A character as it is written is read back. The zero character depends on what follows. -/
theorem cookedText?_quotedChar {c : Char} (hZero : c ≠ '\x00') (rest : List Char) :
    cookedText? (quotedChar c ++ rest) = (cookedText? rest).map (c :: ·) := by
  unfold quotedChar
  split
  · exact absurd rfl hZero
  · simp [cookedText?, letterEscape?]
  · simp [cookedText?, letterEscape?]
  · simp [cookedText?, letterEscape?]
  · simp [cookedText?, letterEscape?]
  · simp [cookedText?, letterEscape?]
  · rename_i hTab hReturn hFeed hQuote hSlash
    -- the characters with an escape of a letter are gone; the others are plain, or have a code
    split
    · exact cookedText?_codeEscape c rest
    · -- a character that stands for itself
      rw [List.singleton_append, cookedText?]
      all_goals simp_all

/-- A text as it stands in a literal is read back, up to the quote after it. -/
theorem cookedText?_literalChars (text after : List Char) :
    cookedText? (literalChars text ++ '"' :: after) = some text := by
  induction text with
  | nil => simp [literalChars, cookedText?]
  | cons c text ih =>
    by_cases hZero : c = '\x00'
    · subst hZero
      rw [literalChars]
      split
      · -- a digit follows, and is not read into the zero's escape
        simp [cookedText?, hexValue?, hexDigit?, ih]
      · simp [cookedText?, letterEscape?, ih]
    · rw [literalChars, List.append_assoc, cookedText?_quotedChar hZero, ih]
      · rfl
      · simpa using hZero

/-- **The literal of a text stands for that text.** -/
theorem stringText?_quotedLiteral (text : String) :
    stringText? (quotedLiteral text) = some text := by
  unfold stringText? quotedLiteral
  rw [String.toList_ofList]
  show (cookedText? (literalChars text.toList ++ ['"'])).map String.ofList = some text
  rw [cookedText?_literalChars, Option.map_some, String.ofList_toList]

/-- No two texts have the same literal. -/
theorem quotedLiteral_injective : Function.Injective quotedLiteral := by
  intro one other hSame
  have hRead := congrArg stringText? hSame
  rw [stringText?_quotedLiteral, stringText?_quotedLiteral] at hRead
  exact Option.some.inj hRead

end Introspect.Code
