/-! # Numerals

Whole numbers written with the digits of a base from 2 to 16, letters in either case.

* `Numeral.value?`: the value of a non-empty run of digits.
* `Numeral.word?`: the same with an optional plus sign, refused from `2 ^ 32` on. -/

namespace WmConfig.Numeral

/-- The value of a hexadecimal digit, upper or lower case. -/
def digit? (c : Char) : Option Nat :=
  if '0' ≤ c ∧ c ≤ '9' then some (c.toNat - '0'.toNat)
  else if 'a' ≤ c ∧ c ≤ 'f' then some (c.toNat - 'a'.toNat + 10)
  else if 'A' ≤ c ∧ c ≤ 'F' then some (c.toNat - 'A'.toNat + 10)
  else none

/-- The value of a digit of the given base. -/
def digitOf? (base : Nat) (c : Char) : Option Nat := (digit? c).filter (· < base)

/-- Reads further digits after those whose value is `acc`. -/
def extend? (base acc : Nat) : List Char → Option Nat
  | [] => some acc
  | c :: cs => (digitOf? base c).bind fun d => extend? base (acc * base + d) cs

/-- The value of a non-empty run of digits of the base. -/
def value? (base : Nat) (cs : List Char) : Option Nat :=
  if cs.isEmpty then none else extend? base 0 cs

/-- Drops one leading plus sign. -/
def dropPlus : List Char → List Char
  | '+' :: cs => cs
  | cs => cs

/-- A 32-bit word in the given base, with an optional plus sign. -/
def word? (base : Nat) (cs : List Char) : Option Nat :=
  (value? base (dropPlus cs)).filter (· < UInt32.size)

end WmConfig.Numeral
