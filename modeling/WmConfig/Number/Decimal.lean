import WmConfig.Number.Binary
import WmConfig.Number.Numeral

/-! # Decimal fractions

Texts such as `-12.5e3`, read exactly; rounding to a binary format is a separate step. This is the
free form used for sizes: digits may be missing on one side of the point, and the words `inf`,
`infinity` and `nan` are numbers too. -/

namespace WmConfig

/-- The number `± coefficient * 10 ^ exponent`. -/
structure Decimal where
  /-- The sign. -/
  negative : Bool
  /-- The digits, read as a whole number. -/
  coefficient : Nat
  /-- The power of ten. -/
  exponent : Int
deriving DecidableEq, Repr

namespace Decimal

/-- The nearest number of a binary format. -/
def round (p : Precision) (d : Decimal) : Binary p :=
  .ofDecimal d.negative d.coefficient d.exponent

/-- The decimal with these digits before and after the point and this power of ten. -/
def ofDigits? (negative : Bool) (whole fraction : List Char) (exponent : Int) : Option Decimal :=
  (Numeral.value? 10 (whole ++ fraction)).map fun n =>
    ⟨negative, n, exponent - fraction.length⟩

/-- Takes a sign off the front. -/
def splitSign : List Char → Bool × List Char
  | '+' :: cs => (false, cs)
  | '-' :: cs => (true, cs)
  | cs => (false, cs)

/-- The exponent part of a numeral, nothing standing for zero. -/
def exponent? : List Char → Option Int
  | [] => some 0
  | c :: cs =>
    if c = 'e' ∨ c = 'E' then
      let (negative, digits) := splitSign cs
      (Numeral.value? 10 digits).map fun n => if negative then -(n : Int) else n
    else none

/-- The digits after a decimal point, and what follows them. -/
def splitFraction : List Char → List Char × List Char
  | '.' :: cs => (cs.takeWhile Char.isDigit, cs.dropWhile Char.isDigit)
  | cs => ([], cs)

/-- An unsigned numeral: digits on at least one side of an optional point, then an optional
exponent. -/
def unsigned? (negative : Bool) (cs : List Char) : Option Decimal :=
  let (fraction, rest) := splitFraction (cs.dropWhile Char.isDigit)
  (exponent? rest).bind (ofDigits? negative (cs.takeWhile Char.isDigit) fraction)

end Decimal

/-- A floating-point number in the free form. -/
def Binary.ofText? (p : Precision) (cs : List Char) : Option (Binary p) :=
  let (negative, rest) := Decimal.splitSign cs
  let word := rest.map Char.toLower
  if word = "inf".toList ∨ word = "infinity".toList then some (.infinity negative)
  else if word = "nan".toList then some .nan
  else (Decimal.unsigned? negative rest).map (·.round p)

end WmConfig
