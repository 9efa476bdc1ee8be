import WmConfig.Number.Numeral

/-! # Quoted texts

The four spellings of a text. A *basic* text stands between double quotes and knows escapes; a
*literal* text stands between single quotes and is taken as it is. Either may also stand between
threefold quotes and then span lines; a line end right after the opening quotes is dropped, one or
two quotes in a row are text, and of a longer row the last three close.

Line ends are line feeds here. Each reader takes the text after the opening quotes and returns the
content with what follows the closing quotes. -/

namespace WmConfig.Toml.Quoted

/-- A character that may stand in a text or a comment: a tab, or no control character. -/
def isText (c : Char) : Bool := c == '\t' || (' ' ≤ c && c != '\x7f')

/-- The character with the given scalar value in hexadecimal. -/
def scalar? (digits : List Char) : Option Char :=
  ((Numeral.value? 16 digits).filter Nat.isValidChar).map Char.ofNat

/-- The character that a one-letter escape stands for. -/
def escaped? : Char → Option Char
  | 'b' => some '\x08'
  | 't' => some '\t'
  | 'n' => some '\n'
  | 'f' => some '\x0c'
  | 'r' => some '\r'
  | '\x22' => some '\x22'
  | '\\' => some '\\'
  | _ => none

/-- Puts a character, if there is one, in front of the content that was read. -/
def prepend (c : Option Char) (read : Option (List Char × List Char)) :
    Option (List Char × List Char) := do
  let c ← c
  let (content, rest) ← read
  return (c :: content, rest)

/-- A basic text on one line. -/
def basic? : List Char → Option (List Char × List Char)
  | [] => none
  | '\x22' :: rest => some ([], rest)
  | '\\' :: 'u' :: a :: b :: c :: d :: rest => prepend (scalar? [a, b, c, d]) (basic? rest)
  | '\\' :: 'U' :: a :: b :: c :: d :: e :: f :: g :: h :: rest =>
    prepend (scalar? [a, b, c, d, e, f, g, h]) (basic? rest)
  | '\\' :: c :: rest => prepend (escaped? c) (basic? rest)
  | c :: rest => prepend (some c) (if isText c then basic? rest else none)

/-- A literal text on one line. -/
def literal? (cs : List Char) : Option (List Char × List Char) :=
  let inside (c : Char) : Bool := isText c && c != '\''
  match cs.dropWhile inside with
  | '\'' :: rest => some (cs.takeWhile inside, rest)
  | _ => none

/-- The end of a text in threefold quotes: of a row of three to five quotes the last three close,
and those before them belong to the content. -/
def closing? (quote : Char) (cs : List Char) : Option (List Char × List Char) :=
  let row := min (cs.takeWhile (· == quote)).length 5
  if 3 ≤ row then some (List.replicate (row - 3) quote, cs.drop row) else none

/-- White space that a backslash at the end of a line swallows. -/
def isSwallowed (c : Char) : Bool := c == ' ' || c == '\t' || c == '\n'

/-- Whether nothing but blanks stands before the end of the line. -/
def endsLine (cs : List Char) : Bool :=
  (cs.dropWhile fun c => c == ' ' || c == '\t').head? == some '\n'

/-- A basic text over several lines; while `swallowing`, white space is dropped. -/
def multiBasic? (swallowing : Bool) : List Char → Option (List Char × List Char)
  | [] => none
  | c :: rest =>
    if swallowing && isSwallowed c then multiBasic? true rest
    else if c = '\\' then
      match rest with
      | 'u' :: a :: b :: c :: d :: rest => prepend (scalar? [a, b, c, d]) (multiBasic? false rest)
      | 'U' :: a :: b :: c :: d :: e :: f :: g :: h :: rest =>
        prepend (scalar? [a, b, c, d, e, f, g, h]) (multiBasic? false rest)
      | c :: rest =>
        if endsLine (c :: rest) then multiBasic? true rest
        else prepend (escaped? c) (multiBasic? false rest)
      | [] => none
    else
      match closing? '\x22' (c :: rest) with
      | some read => some read
      | none => prepend (some c) (if isText c || c == '\n' then multiBasic? false rest else none)

/-- A literal text over several lines. -/
def multiLiteral? : List Char → Option (List Char × List Char)
  | [] => none
  | c :: rest =>
    match closing? '\'' (c :: rest) with
    | some read => some read
    | none => prepend (some c) (if isText c || c == '\n' then multiLiteral? rest else none)

/-- Drops the line end right after the opening quotes. -/
def dropLineEnd : List Char → List Char
  | '\n' :: cs => cs
  | cs => cs

/-- A text in any spelling, from the opening quote on. -/
def read? : List Char → Option (List Char × List Char)
  | '\x22' :: '\x22' :: '\x22' :: rest => multiBasic? false (dropLineEnd rest)
  | '\x22' :: rest => basic? rest
  | '\'' :: '\'' :: '\'' :: rest => multiLiteral? (dropLineEnd rest)
  | '\'' :: rest => literal? rest
  | _ => none

end WmConfig.Toml.Quoted
