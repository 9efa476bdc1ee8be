/-! # White space

The characters with the Unicode property White_Space, and trimming by it. The set holds what
`Char.isWhitespace` accepts, and the line tabulation, form feed and spaces beyond ASCII. -/

namespace WmConfig

/-- Whether the character is white space. -/
def isBlank (c : Char) : Bool :=
  ('\t' ≤ c && c ≤ '\r') || c == ' ' || c == '\u0085' || c == '\u00a0' || c == '\u1680' ||
    ('\u2000' ≤ c && c ≤ '\u200a') || c == '\u2028' || c == '\u2029' || c == '\u202f' ||
    c == '\u205f' || c == '\u3000'

/-- The text without white space at its ends. -/
def trim (cs : List Char) : List Char :=
  ((cs.dropWhile isBlank).reverse.dropWhile isBlank).reverse

end WmConfig
