/-! # Binary floating-point numbers

Numbers of the binary interchange formats as data: a sign, a significand and the exponent of its
last bit, in the one canonical form each number has. Arithmetic is done on exact ratios and
rounded once, to the nearest number of the format, a tie to the one with an even significand.

* `Binary`: the numbers of one format, with the infinities and one value that is no number.
* `Binary.ofRatio`: the number nearest to a ratio.
* `Binary.toBits`: the interchange encoding. -/

namespace WmConfig

/-- A binary format: how many bits a significand has, and the range of the exponent of its last
bit. -/
structure Precision where
  /-- The bits of a significand. -/
  digits : Nat
  /-- The exponent of the last bit of the smallest numbers. -/
  minExponent : Int
  /-- The exponent of the last bit of the largest numbers. -/
  maxExponent : Int
deriving DecidableEq, Repr

/-- The 32-bit format. -/
def Precision.single : Precision := ⟨24, -149, 104⟩

/-- The 64-bit format. -/
def Precision.double : Precision := ⟨53, -1074, 971⟩

/-- The significand fits, and it is full unless the exponent is the least one. -/
def Precision.Canonical (p : Precision) (significand : Nat) (exponent : Int) : Prop :=
  significand < Nat.pow 2 p.digits ∧ p.minExponent ≤ exponent ∧ exponent ≤ p.maxExponent ∧
    (Nat.pow 2 (p.digits - 1) ≤ significand ∨ exponent = p.minExponent)

instance (p : Precision) (m : Nat) (e : Int) : Decidable (p.Canonical m e) :=
  inferInstanceAs (Decidable (_ ∧ _))

/-- A floating-point number; the finite ones are `± significand * 2 ^ exponent`. -/
inductive Binary (p : Precision) where
  /-- No number. -/
  | nan
  /-- An infinity. -/
  | infinity (negative : Bool)
  /-- A finite number, zero with either sign included. -/
  | finite (negative : Bool) (significand : Nat) (exponent : Int)
      (canonical : p.Canonical significand exponent)
deriving DecidableEq

namespace Binary

variable {p : Precision}

/-- The number with these parts; parts that do not fit the format stand for an infinity. -/
def ofParts (negative : Bool) (significand : Nat) (exponent : Int) : Binary p :=
  if h : p.Canonical significand exponent then .finite negative significand exponent h
  else .infinity negative

/-- Zero. -/
def zero (negative : Bool) : Binary p := ofParts negative 0 p.minExponent

/-! ### Rounding -/

/-- The quotient rounded to the nearest whole number, a tie to the even one. -/
def roundHalfEven (num den : Nat) : Nat :=
  if 2 * (num % den) < den ∨ (2 * (num % den) = den ∧ num / den % 2 = 0) then num / den
  else num / den + 1

/-- The ratio divided by `2 ^ e`, as a ratio. -/
def scaleDown (num den : Nat) (e : Int) : Nat × Nat :=
  (num * Nat.pow 2 (-e).toNat, den * Nat.pow 2 e.toNat)

/-- The exponent at which a positive ratio has a full significand, or the least one. -/
def exponentOf (p : Precision) (num den : Nat) : Int :=
  let guess : Int := (num.log2 : Int) - den.log2 - p.digits + 1
  let scaled := scaleDown num den guess
  max (if scaled.1 / scaled.2 < Nat.pow 2 (p.digits - 1) then guess - 1 else guess) p.minExponent

/-- The number nearest to `± num / den`. -/
def ofRatio (negative : Bool) (num den : Nat) : Binary p :=
  if num = 0 then zero negative
  else
    let e := exponentOf p num den
    let scaled := scaleDown num den e
    let m := roundHalfEven scaled.1 scaled.2
    -- Rounding up a full significand carries into the next exponent.
    if m = Nat.pow 2 p.digits then ofParts negative (Nat.pow 2 (p.digits - 1)) (e + 1)
    else ofParts negative m e

/-- The number nearest to a whole number. -/
def ofInt (i : Int) : Binary p := ofRatio (i < 0) i.natAbs 1

/-- The number nearest to `± coefficient * 10 ^ exponent`. A power of ten lies beyond the power of
two with three times its exponent, which settles the orders of magnitude out of range at once. -/
def ofDecimal (negative : Bool) (coefficient : Nat) (exponent : Int) : Binary p :=
  let magnitude : Int := coefficient.log2 + 3 * exponent
  if coefficient = 0 then zero negative
  else if 0 < exponent ∧ p.maxExponent + p.digits ≤ magnitude then .infinity negative
  else if exponent < 0 ∧ magnitude + 2 < p.minExponent then zero negative
  else ofRatio negative (coefficient * Nat.pow 10 exponent.toNat) (Nat.pow 10 (-exponent).toNat)

/-- Multiplies by a positive whole number that the format holds exactly. -/
def mulNat (x : Binary p) (k : Nat) : Binary p :=
  match x with
  | .finite s m e _ => ofRatio s (m * k * Nat.pow 2 e.toNat) (Nat.pow 2 (-e).toNat)
  | x => x

/-- Divides by a positive whole number that the format holds exactly. -/
def divNat (x : Binary p) (k : Nat) : Binary p :=
  match x with
  | .finite s m e _ => ofRatio s (m * Nat.pow 2 e.toNat) (k * Nat.pow 2 (-e).toNat)
  | x => x

/-! ### Order -/

/-- A finite number as a multiple of `2 ^ unit`, for a unit not above its exponent. -/
def multipleOf (unit : Int) (negative : Bool) (significand : Nat) (exponent : Int) : Int :=
  let n : Int := (significand * Nat.pow 2 (exponent - unit).toNat : Nat)
  if negative then -n else n

/-- Strict order; what is no number is not below or above anything. -/
def lt : Binary p → Binary p → Bool
  | .nan, _ => false
  | _, .nan => false
  | .infinity s, .infinity t => s && !t
  | .infinity s, .finite .. => s
  | .finite .., .infinity t => !t
  | .finite s m e _, .finite t n f _ =>
    multipleOf (min e f) s m e < multipleOf (min e f) t n f

/-- Order, equality included. -/
def le (x y : Binary p) : Bool := x != .nan && y != .nan && !y.lt x

/-! ### Encoding -/

/-- The interchange encoding as a number: sign, biased exponent, significand without its leading
bit. -/
def toBits : Binary p → Nat
  | .nan => fields false (p.maxExponent - p.minExponent + 2).toNat (Nat.pow 2 (p.digits - 2))
  | .infinity s => fields s (p.maxExponent - p.minExponent + 2).toNat 0
  | .finite s m e _ =>
    if m < Nat.pow 2 (p.digits - 1) then fields s 0 m
    else fields s (e - p.minExponent + 1).toNat (m - Nat.pow 2 (p.digits - 1))
where
  /-- The three fields side by side. -/
  fields (negative : Bool) (biased fraction : Nat) : Nat :=
    let signBit := (p.maxExponent - p.minExponent + 3).toNat * Nat.pow 2 (p.digits - 1)
    (if negative then signBit else 0) + biased * Nat.pow 2 (p.digits - 1) + fraction

end Binary

/-- A 32-bit floating-point number. -/
abbrev Binary32 := Binary .single

/-- A 64-bit floating-point number. -/
abbrev Binary64 := Binary .double

end WmConfig
