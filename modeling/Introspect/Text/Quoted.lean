import Introspect.Text.Identifier
import Introspect.Text.EscapeTable

/-!
# Quoted text

The written form of a text between double quotes. Quotes and backslashes get a backslash, the
common control characters have a letter, and every other character that does not print on its own
is shown by its code in hexadecimal.
-/

namespace Introspect.Text

/-- A character shown by its code: a backslash, `u` and the hexadecimal digits between braces. -/
def codeEscape (c : Char) : List Char :=
  ['\\', 'u', '\x7b'] ++ Nat.toDigits 16 c.toNat ++ ['\x7d']

/-- Whether quoted text shows a character by its code. -/
def needsCode (c : Char) : Bool :=
  c.toNat < 32 || c.toNat == 127 || (128 ≤ c.toNat && inRanges escapedRanges c)

/-- The form of one character inside double quotes. -/
def quotedChar (c : Char) : List Char :=
  match c with
  | '\x00' => ['\\', '0']
  | '\t' => ['\\', 't']
  | '\r' => ['\\', 'r']
  | '\n' => ['\\', 'n']
  | '"' => ['\\', '"']
  | '\\' => ['\\', '\\']
  | c => if needsCode c then codeEscape c else [c]

/-- A text between double quotes. -/
def quoted (text : String) : String :=
  String.ofList ('"' :: (text.toList.flatMap quotedChar ++ ['"']))

end Introspect.Text
