/-!
# White space

The characters with the Unicode property `White_Space`.
-/

namespace Introspect.Text

/-- Whether a character is white space. -/
def isBlank (c : Char) : Bool :=
  ('\t' ≤ c && c ≤ '\r') || c == ' ' || c == '\u0085' || c == '\u00a0' || c == '\u1680' ||
    ('\u2000' ≤ c && c ≤ '\u200a') || c == '\u2028' || c == '\u2029' || c == '\u202f' ||
    c == '\u205f' || c == '\u3000'

end Introspect.Text
