/-!
# Hexadecimal digits

The values of hexadecimal digits, and of several in a row.
-/

namespace Introspect.Text

/-- The value of a hexadecimal digit. -/
def hexDigit? (c : Char) : Option Nat :=
  if c.isDigit then some (c.toNat - '0'.toNat)
  else if 'a' ≤ c ∧ c ≤ 'f' then some (c.toNat - 'a'.toNat + 10)
  else if 'A' ≤ c ∧ c ≤ 'F' then some (c.toNat - 'A'.toNat + 10)
  else none

/-- The value of hexadecimal digits, the most significant one first. -/
def hexValue? (digits : List Char) : Option Nat :=
  digits.foldlM (fun value c => (hexDigit? c).map (16 * value + ·)) 0

/-- The character with a code, unless the code is half of a surrogate pair or out of range. -/
def charOfCode? (code : Nat) : Option Char :=
  if h : code.isValidChar then some (Char.ofNatAux code h) else none

end Introspect.Text
