import Introspect.Text.Hexadecimal
import Introspect.Toml.Value

/-!
# Scalars of TOML

The values that are written without quotes or brackets: truth values, numbers, and moments in time.
A whole number has 64 bits with a sign. A number with a fraction must not be too large for a float
of 64 bits. A moment must be on the calendar and on the clock.

* `Scalar.ofWord?` reads a scalar.
-/

namespace Introspect.Toml.Scalar

/-! ## Digits -/

/-- Digits with single underscores between them, without the underscores. The test says what a digit
is. -/
def digits? (isDigit : Char → Bool) (isFirst : Bool) : List Char → Option (List Char)
  | [] => if isFirst then none else some []
  | ['_'] => none
  | '_' :: c :: rest =>
    if !isFirst && isDigit c then (digits? isDigit false rest).map (c :: ·) else none
  | c :: rest => if isDigit c then (digits? isDigit false rest).map (c :: ·) else none

/-- The value of digits in a base. -/
def digitsValue (base : Nat) (digits : List Char) : Nat :=
  digits.foldl (fun value c => base * value + (Text.hexDigit? c).getD 0) 0

/-- The digits before a point: no zero stands before others. -/
def wholeDigits? (text : List Char) : Option (List Char) :=
  match text with
  | '0' :: _ :: _ => none
  | _ => digits? Char.isDigit true text

/-- A text without the sign before it, and whether the sign is a minus. -/
def unsigned : List Char → Bool × List Char
  | '-' :: rest => (true, rest)
  | '+' :: rest => (false, rest)
  | text => (false, text)

/-! ## Whole numbers -/

/-- The least positive number that 64 bits with a sign cannot hold. -/
def integerLimit : Int := Int.ofNat (Nat.pow 2 63)

/-- A whole number that 64 bits with a sign can hold. -/
def inRange? (value : Int) : Option Value :=
  if -integerLimit ≤ value ∧ value < integerLimit then some (.integer value) else none

/-- A whole number in a base other than ten. -/
def based? (base : Nat) (text : List Char) : Option Value := do
  let digits ← digits? (fun c => (Text.hexDigit? c).any (· < base)) true text
  inRange? (digitsValue base digits)

/-- A whole number. -/
def integer? (text : List Char) : Option Value :=
  match text with
  | '0' :: 'x' :: rest => based? 16 rest
  | '0' :: 'o' :: rest => based? 8 rest
  | '0' :: 'b' :: rest => based? 2 rest
  | _ => do
    let (isNegative, rest) := unsigned text
    let value := digitsValue 10 (← wholeDigits? rest)
    inRange? (if isNegative then -(value : Int) else value)

/-! ## Numbers with a fraction -/

/-- The least number that is rounded to infinity: half a step above the largest float. -/
def floatLimit : Nat := Nat.pow 2 1024 - Nat.pow 2 970

/-- Whether a float can hold a number, given by its digits and the power of ten they are scaled by.
The number of digits decides, except for numbers with as many digits as the limit. -/
def isFloat (digits : List Char) (scale : Int) : Bool :=
  let significant := digits.dropWhile (· == '0')
  let size := (significant.length : Int) + scale
  if significant.isEmpty || size < 309 then true
  else if 309 < size then false
  else
    let mantissa := digitsValue 10 significant
    if 0 ≤ scale then mantissa * Nat.pow 10 scale.toNat < floatLimit
    else mantissa < floatLimit * Nat.pow 10 (-scale).toNat

/-- The value of an exponent, which may have a sign. -/
def exponent? (text : List Char) : Option Int := do
  let (isNegative, rest) := unsigned text
  let value := digitsValue 10 (← digits? Char.isDigit true rest)
  return if isNegative then -(value : Int) else value

/-- Whether a character is the mark before an exponent. -/
def isExponentMark (c : Char) : Bool := c == 'e' || c == 'E'

/-- A number with a fraction, an exponent or both; or an infinity, or no number. -/
def decimal? (text : List Char) : Option Value := do
  let (_, rest) := unsigned text
  if rest == "inf".toList || rest == "nan".toList then return .decimal
  let number := rest.takeWhile (!isExponentMark ·)
  let exponent ←
    match rest.dropWhile (!isExponentMark ·) with
    | [] => some 0
    | _ :: power => exponent? power
  let whole ← wholeDigits? (number.takeWhile (· != '.'))
  let fraction ←
    match number.dropWhile (· != '.') with
    -- without a point there has to be an exponent
    | [] => if number.length < rest.length then some [] else none
    | _ :: digits => digits? Char.isDigit true digits
  if isFloat (whole ++ fraction) (exponent - fraction.length) then return .decimal else none

/-! ## Moments -/

/-- The value of as many digits as a number says, and what follows them. -/
def fixedDigits? (count : Nat) (text : List Char) : Option (Nat × List Char) :=
  let digits := text.take count
  if digits.length == count && digits.all Char.isDigit then
    some (digitsValue 10 digits, text.drop count)
  else none

/-- What follows a character, if the text begins with it. -/
def after? (c : Char) : List Char → Option (List Char)
  | d :: rest => if c == d then some rest else none
  | [] => none

/-- The number of days in a month; February has a day more in every fourth year, except for three of
four centuries. -/
def daysIn (year month : Nat) : Nat :=
  if month == 2 then
    if year % 4 == 0 && (year % 100 != 0 || year % 400 == 0) then 29 else 28
  else if [4, 6, 9, 11].contains month then 30
  else 31

/-- What follows a date of the calendar. -/
def dateEnd? (text : List Char) : Option (List Char) := do
  let (year, rest) ← fixedDigits? 4 text
  let (month, rest) ← fixedDigits? 2 (← after? '-' rest)
  let (day, rest) ← fixedDigits? 2 (← after? '-' rest)
  if 1 ≤ month && month ≤ 12 && 1 ≤ day && day ≤ daysIn year month then some rest else none

/-- What follows a time of the clock; its last minute may have a second more. -/
def timeEnd? (text : List Char) : Option (List Char) := do
  let (hour, rest) ← fixedDigits? 2 text
  let (minute, rest) ← fixedDigits? 2 (← after? ':' rest)
  let (second, rest) ← fixedDigits? 2 (← after? ':' rest)
  if 23 < hour || 59 < minute || 60 < second then none
  else
    match rest with
    | '.' :: fraction =>
      if fraction.head?.any Char.isDigit then some (fraction.dropWhile Char.isDigit) else none
    | _ => some rest

/-- Whether a text is nothing, or how far a clock is from the common one. -/
def isOffset (text : List Char) : Bool :=
  match text with
  | [] => true
  | [c] => c == 'Z' || c == 'z'
  | sign :: rest =>
    (sign == '+' || sign == '-') &&
      (do
        let (hour, rest) ← fixedDigits? 2 rest
        let (minute, rest) ← fixedDigits? 2 (← after? ':' rest)
        return hour ≤ 23 && minute ≤ 59 && rest.isEmpty : Option Bool) == some true

/-- A date, a time, or a date with a time and perhaps an offset. -/
def moment? (text : List Char) : Option Value :=
  match dateEnd? text with
  | some [] => some .moment
  | some (c :: rest) =>
    -- a space may stand in the place of the letter between a date and a time
    if c == 'T' || c == 't' || c == ' ' then
      match timeEnd? rest with
      | some offset => if isOffset offset then some .moment else none
      | none => none
    else none
  | none => if timeEnd? text == some [] then some .moment else none

/-! ## Scalars -/

/-- A truth value. -/
def boolean? (text : List Char) : Option Value :=
  if text == "true".toList then some (.boolean true)
  else if text == "false".toList then some (.boolean false)
  else none

/-- The scalar that a word is. -/
def ofWord? (word : List Char) : Option Value :=
  boolean? word <|> integer? word <|> decimal? word <|> moment? word

end Introspect.Toml.Scalar
