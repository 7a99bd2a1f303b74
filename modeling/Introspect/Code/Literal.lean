import Introspect.Text.Blank
import Introspect.Text.Hexadecimal
import Introspect.Text.Quoted

/-!
# Literals

Where a literal at the start of a text ends: strings of three kinds, plain or raw, bytes, characters
and numbers, each with an optional suffix. A literal is kept as it was written, so finding its end
is all that is needed to tell it apart; `stringText?` says what a plain text literal stands for.

* `literalEnd?` finds the end of a literal.
* `quotedLiteral` writes a text as a literal.
-/

namespace Introspect.Code

open Introspect.Text

/-! ## Words -/

/-- What follows an identifier, if the text begins with one. -/
def wordEnd? : List Char → Option (List Char)
  | [] => none
  | c :: rest => if isIdentifierStart c then some (rest.dropWhile isIdentifierContinue) else none

/-- What follows the suffix of a literal, if it has one. -/
def dropSuffix (text : List Char) : List Char := (wordEnd? text).getD text

/-! ## Escapes -/

/-- The character written by its code: one to six hexadecimal digits, and underscores after the
first of them. -/
def codedChar? (digits : List Char) : Option Char :=
  if digits.head? == some '_' then none
  else
    let hex := digits.filter (· != '_')
    if hex.isEmpty || 6 < hex.length then none else hexValue? hex >>= charOfCode?

/-- The character that a backslash and a letter stand for. -/
def letterEscape? : Char → Option Char
  | 'n' => some '\n'
  | 'r' => some '\r'
  | 't' => some '\t'
  | '0' => some '\x00'
  | '\\' => some '\\'
  | '\'' => some '\''
  | '"' => some '"'
  | _ => none

/-- What follows the white space with which a continued line of a string begins. A carriage return
needs its line feed. -/
def continuedLine? : List Char → Option (List Char)
  | [] => none
  | '\r' :: '\n' :: rest => continuedLine? rest
  | c :: rest =>
    if c == '\r' then none
    else if c == ' ' || c == '\t' || c == '\n' then continuedLine? rest
    else some (c :: rest)

theorem length_continuedLine? {text rest : List Char} (h : continuedLine? text = some rest) :
    rest.length ≤ text.length := by
  fun_induction continuedLine? text with
  | case1 => simp at h
  | case2 text ih =>
    have := ih h
    simp only [List.length_cons]
    omega
  | case3 => simp at h
  | case4 c text _ _ _ ih =>
    have := ih h
    simp only [List.length_cons]
    omega
  | case5 c text => simp_all

/-! ## Strings -/

/-- What a string literal holds: text, bytes, or text without the zero character. -/
inductive StringKind where
  | text
  | bytes
  | nonzero
  deriving DecidableEq, Repr

/-- Whether a string of a kind may hold a character as it is. -/
def StringKind.allows : StringKind → Char → Bool
  | .text, _ => true
  | .bytes, c => c.toNat < 128
  | .nonzero, c => c != '\x00'

/-- Whether a string of a kind may hold a character given by two hexadecimal digits. -/
def StringKind.allowsCode : StringKind → Nat → Bool
  | .text, code => code < 128
  | .bytes, _ => true
  | .nonzero, code => code != 0

/-- What follows a string whose opening quote has been read. -/
def stringEnd? (kind : StringKind) (text : List Char) : Option (List Char) :=
  match text with
  | [] => none
  | '"' :: rest => some (dropSuffix rest)
  | '\r' :: '\n' :: rest => stringEnd? kind rest
  | '\\' :: 'x' :: high :: low :: rest =>
    if (hexValue? [high, low]).any kind.allowsCode then stringEnd? kind rest else none
  | '\\' :: 'u' :: '\x7b' :: rest =>
    -- bytes cannot be given as characters by their code
    if kind == .bytes then none
    else if ((codedChar? (rest.takeWhile (· != '\x7d'))).filter kind.allows).isNone then none
    else
      have : ((rest.dropWhile (· != '\x7d')).drop 1).length ≤ rest.length := by
        have := (List.dropWhile_suffix (l := rest) (· != '\x7d')).length_le
        simp only [List.length_drop]
        omega
      stringEnd? kind ((rest.dropWhile (· != '\x7d')).drop 1)
  | '\\' :: '\n' :: rest =>
    match h : continuedLine? rest with
    | some line =>
      have := length_continuedLine? h
      stringEnd? kind line
    | none => none
  | '\\' :: '\r' :: '\n' :: rest =>
    match h : continuedLine? rest with
    | some line =>
      have := length_continuedLine? h
      stringEnd? kind line
    | none => none
  | '\\' :: letter :: rest =>
    if ((letterEscape? letter).filter kind.allows).isSome then stringEnd? kind rest else none
  | c :: rest =>
    if c != '\\' && c != '\r' && kind.allows c then stringEnd? kind rest else none
termination_by text.length
decreasing_by all_goals (simp only [List.length_cons]; omega)

/-- What follows a raw string whose opening quote, after some number signs, has been read. -/
def rawStringEnd? (kind : StringKind) (signs : Nat) : List Char → Option (List Char)
  | [] => none
  | '"' :: rest =>
    -- the string ends at a quote with as many number signs after it as before the opening one
    if rest.take signs == List.replicate signs '#' then some (dropSuffix (rest.drop signs))
    else rawStringEnd? kind signs rest
  | '\r' :: '\n' :: rest => rawStringEnd? kind signs rest
  | c :: rest => if c != '\r' && kind.allows c then rawStringEnd? kind signs rest else none

/-- What follows a raw string whose leading letters have been read. -/
def rawLiteralEnd? (kind : StringKind) (text : List Char) : Option (List Char) :=
  let signs := (text.takeWhile (· == '#')).length
  match text.dropWhile (· == '#') with
  | '"' :: rest => if signs ≤ 255 then rawStringEnd? kind signs rest else none
  | _ => none

/-! ## Bytes and characters -/

/-- What follows the closing apostrophe of a character. -/
def apostropheEnd? : List Char → Option (List Char)
  | '\'' :: rest => some (dropSuffix rest)
  | _ => none

/-- What follows a byte or a character whose opening apostrophe has been read. -/
def charEnd? (kind : StringKind) : List Char → Option (List Char)
  | '\\' :: 'x' :: high :: low :: rest =>
    if (hexValue? [high, low]).any kind.allowsCode then apostropheEnd? rest else none
  | '\\' :: 'u' :: '\x7b' :: rest =>
    if kind == .bytes || (codedChar? (rest.takeWhile (· != '\x7d'))).isNone then none
    else apostropheEnd? ((rest.dropWhile (· != '\x7d')).drop 1)
  | '\\' :: letter :: rest =>
    if (letterEscape? letter).isSome then apostropheEnd? rest else none
  | c :: rest => if c != '\\' && kind.allows c then apostropheEnd? rest else none
  | [] => none

/-! ## Numbers -/

/-- Digits may be parted by underscores. -/
def isDigitOrUnderscore (c : Char) : Bool := c.isDigit || c == '_'

/-- What follows a number, after its suffix; a number does not run into a word. -/
def numberEnd? (text : List Char) : Option (List Char) :=
  let rest := dropSuffix text
  if rest.head?.any isIdentifierContinue then none else some rest

/-- What follows the digits of a whole number; letters count as digits where the base has them. -/
def digitsEnd? (base : Nat) (isFirst : Bool) : List Char → Option (List Char)
  | [] => if isFirst then none else some []
  | c :: rest =>
    if c == '_' then
      -- underscores may stand before the first digit only if the base has been named
      if isFirst && base == 10 then none else digitsEnd? base isFirst rest
    else
      match hexDigit? c with
      | some digit =>
        if digit < base then digitsEnd? base false rest
        -- a digit that the base does not have is no suffix
        else if c.isDigit || isFirst then none
        else some (c :: rest)
      | none => if isFirst then none else some (c :: rest)

/-- What follows a whole number. -/
def integerEnd? (text : List Char) : Option (List Char) :=
  let digits := match text with
    | '0' :: 'x' :: rest => digitsEnd? 16 true rest
    | '0' :: 'o' :: rest => digitsEnd? 8 true rest
    | '0' :: 'b' :: rest => digitsEnd? 2 true rest
    | _ => digitsEnd? 10 true text
  digits >>= numberEnd?

/-- What follows the digits of an exponent, which may have one sign before them. -/
def exponentEnd? (hasSign hasDigit : Bool) : List Char → Option (List Char)
  | [] => if hasDigit then some [] else none
  | c :: rest =>
    if c == '+' || c == '-' then
      if hasDigit then some (c :: rest)
      else if hasSign then none
      else exponentEnd? true hasDigit rest
    else if c.isDigit then exponentEnd? hasSign true rest
    else if c == '_' then exponentEnd? hasSign hasDigit rest
    else if hasDigit then some (c :: rest)
    else none

/-- What follows a number with a point or an exponent. A point before a word, or before another
point, is not part of the number; an exponent without digits is a suffix, where there is a point. -/
def decimalEnd? (text : List Char) : Option (List Char) :=
  if text.head?.any Char.isDigit then
    match text.dropWhile isDigitOrUnderscore with
    | '.' :: fraction =>
      -- two points are a range, and a point before a word calls a member
      if fraction.head?.any fun c => c == '.' || isIdentifierStart c then none
      else
        match fraction.dropWhile isDigitOrUnderscore with
        | c :: rest =>
          if c == 'e' || c == 'E' then
            numberEnd? ((exponentEnd? false false rest).getD (c :: rest))
          else numberEnd? (c :: rest)
        | [] => some []
    | c :: rest =>
      if c == 'e' || c == 'E' then exponentEnd? false false rest >>= numberEnd? else none
    | [] => none
  else none

/-! ## Literals -/

/-- What follows a literal, if the text begins with one. -/
def literalEnd? (text : List Char) : Option (List Char) :=
  let worded := match text with
    | '"' :: rest => stringEnd? .text rest
    | 'r' :: rest => rawLiteralEnd? .text rest
    | 'b' :: '"' :: rest => stringEnd? .bytes rest
    | 'b' :: 'r' :: rest => rawLiteralEnd? .bytes rest
    | 'b' :: '\'' :: rest => charEnd? .bytes rest
    | 'c' :: '"' :: rest => stringEnd? .nonzero rest
    | 'c' :: 'r' :: rest => rawLiteralEnd? .nonzero rest
    | '\'' :: rest => charEnd? .text rest
    | _ => none
  worded <|> decimalEnd? text <|> integerEnd? text

/-! ## Text literals -/

/-- The text that a plain string stands for, its opening quote having been read. White space after
a backslash at the end of a line is left out, and a line ends in a line feed alone. -/
def cookedText? (text : List Char) : Option (List Char) :=
  match text with
  | [] => none
  | '"' :: _ => some []
  | '\r' :: '\n' :: rest => (cookedText? rest).map ('\n' :: ·)
  | '\\' :: 'x' :: high :: low :: rest => do
    let code ← hexValue? [high, low]
    (cookedText? rest).map (Char.ofNat code :: ·)
  | '\\' :: 'u' :: '\x7b' :: rest =>
    match codedChar? (rest.takeWhile (· != '\x7d')) with
    | some c =>
      have : ((rest.dropWhile (· != '\x7d')).drop 1).length ≤ rest.length := by
        have := (List.dropWhile_suffix (l := rest) (· != '\x7d')).length_le
        simp only [List.length_drop]
        omega
      (cookedText? ((rest.dropWhile (· != '\x7d')).drop 1)).map (c :: ·)
    | none => none
  | '\\' :: letter :: rest =>
    if letter == '\n' || letter == '\r' then
      have := (List.dropWhile_suffix (l := rest) isBlank).length_le
      cookedText? (rest.dropWhile isBlank)
    else
      match letterEscape? letter with
      | some c => (cookedText? rest).map (c :: ·)
      | none => none
  | c :: rest => (cookedText? rest).map (c :: ·)
termination_by text.length
decreasing_by all_goals (simp only [List.length_cons]; omega)

/-- The text between the quotes of a raw string: all up to the last quote. -/
def rawText? (text : List Char) : Option (List Char) :=
  match text.dropWhile (· == '#') with
  | '"' :: rest => some ((rest.reverse.dropWhile (· != '"')).drop 1).reverse
  | _ => none

/-- The text that a literal stands for, if it is a string of text. -/
def stringText? (literal : String) : Option String :=
  match literal.toList with
  | '"' :: rest => (cookedText? rest).map String.ofList
  | 'r' :: rest => (rawText? rest).map String.ofList
  | _ => none

/-- The characters of a text as they stand in a literal. The zero character is written in full
before a digit that would be read with it, and an apostrophe stands for itself. -/
def literalChars : List Char → List Char
  | [] => []
  | '\x00' :: rest =>
    (if rest.head?.any fun c => '0' ≤ c && c ≤ '7' then ['\\', 'x', '0', '0'] else ['\\', '0']) ++
      literalChars rest
  | c :: rest => quotedChar c ++ literalChars rest

/-- A literal that stands for a text. -/
def quotedLiteral (text : String) : String :=
  String.ofList ('"' :: (literalChars text.toList ++ ['"']))

end Introspect.Code
