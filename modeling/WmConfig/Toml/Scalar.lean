import WmConfig.Number.Decimal
import WmConfig.Toml.Value

/-! # Values of one word

Numbers, truth values and date forms are words: runs of letters, digits and a few signs. A word is
read as a whole, so a value that only starts like a number is refused.

Digits may be grouped by single underscores. A whole number has 64 bits; a floating-point number
that rounds to positive infinity is refused. -/

namespace WmConfig.Toml.Scalar

/-- A character that a word may hold. -/
def isWordChar (c : Char) : Bool :=
  c.isAlphanum || c == '+' || c == '-' || c == '_' || c == '.' || c == ':'

/-- Removes the underscores that stand between two digits, and refuses any other. -/
def ungroup? (isDigit : Char → Bool) : List Char → Option (List Char)
  | [] => none
  | [c] => if isDigit c then some [c] else none
  | c :: '_' :: rest => if isDigit c then (ungroup? isDigit rest).map (c :: ·) else none
  | c :: rest => if isDigit c then (ungroup? isDigit rest).map (c :: ·) else none

/-- Decimal digits without a zero in front of others. -/
def wholeDigits? (cs : List Char) : Option (List Char) :=
  (ungroup? Char.isDigit cs).filter fun ds => ds.length = 1 ∨ ds.head? ≠ some '0'

/-- An unsigned number in another base. -/
def based? (base : Nat) (cs : List Char) : Option Int := do
  let digits ← ungroup? (fun c => (Numeral.digitOf? base c).isSome) cs
  return (← Numeral.value? base digits)

/-- A signed number in decimal. -/
def decimal? (cs : List Char) : Option Int := do
  let (negative, body) := Decimal.splitSign cs
  let n ← Numeral.value? 10 (← wholeDigits? body)
  return if negative then -(n : Int) else n

/-- A whole number of 64 bits. -/
def integer? (cs : List Char) : Option Int :=
  let n := match cs with
    | '0' :: 'x' :: digits => based? 16 digits
    | '0' :: 'o' :: digits => based? 8 digits
    | '0' :: 'b' :: digits => based? 2 digits
    | _ => decimal? cs
  n.filter fun n => -0x8000000000000000 ≤ n ∧ n < 0x8000000000000000

/-- The grouped digits at the front of a word, and the rest. -/
def splitDigits (cs : List Char) : List Char × List Char :=
  let inside (c : Char) : Bool := c.isDigit || c == '_'
  (cs.takeWhile inside, cs.dropWhile inside)

/-- The digits after a decimal point, without their underscores, and the rest; nothing if there is
no point. -/
def fraction? : List Char → Option (List Char × List Char)
  | '.' :: cs => do
    let (digits, rest) := splitDigits cs
    return (← ungroup? Char.isDigit digits, rest)
  | cs => some ([], cs)

/-- The power of ten at the end of a word, `0` if there is none. -/
def exponent? : List Char → Option Int
  | [] => some 0
  | c :: cs =>
    if c = 'e' ∨ c = 'E' then do
      let (negative, digits) := Decimal.splitSign cs
      let n ← Numeral.value? 10 (← ungroup? Char.isDigit digits)
      return if negative then -(n : Int) else n
    else none

/-- A floating-point number with a fraction, an exponent or both. -/
def decimalFloat? (negative : Bool) (cs : List Char) : Option Binary64 := do
  let (digits, rest) := splitDigits cs
  let whole ← wholeDigits? digits
  let (fraction, power) ← fraction? rest
  if rest.isEmpty then none
  else
    let decimal ← Decimal.ofDigits? negative whole fraction (← exponent? power)
    let x := decimal.round .double
    if x = .infinity false then none else some x

/-- A floating-point number. -/
def float? (cs : List Char) : Option Binary64 :=
  let (negative, body) := Decimal.splitSign cs
  if body = "inf".toList then some (.infinity negative)
  else if body = "nan".toList then some .nan
  else decimalFloat? negative body

/-- The value that a word stands for. -/
def ofWord? (word : List Char) : Option Value :=
  if word = "true".toList then some (.boolean true)
  else if word = "false".toList then some (.boolean false)
  else
    (Datetime.whole? .value word).map .datetime <|> (integer? word).map .integer <|>
      (float? word).map .float

/-- Whether a word is a day alone. -/
def isDay (word : List Char) : Bool := (Date.read? word).any fun (_, rest) => rest.isEmpty

/-- A value of one word, and what follows it. A day may be set off from its time by a space. -/
def read? (cs : List Char) : Option (Value × List Char) :=
  let word := cs.takeWhile isWordChar
  match isDay word, cs.dropWhile isWordChar with
  | true, ' ' :: c :: rest =>
    if c.isDigit then
      (Datetime.whole? .value (word ++ ' ' :: c :: rest.takeWhile isWordChar)).map fun d =>
        (.datetime d, rest.dropWhile isWordChar)
    else (ofWord? word).map (·, ' ' :: c :: rest)
  | _, rest => (ofWord? word).map (·, rest)

end WmConfig.Toml.Scalar
