import WmConfig.Number.Numeral

/-! # Colours

A colour is written `#` followed by three hexadecimal groups of one length, from one to four digits
each. A group gives the leading digits of a 16-bit channel. Every other text is a name, which only
a display can resolve. -/

namespace WmConfig

/-- A colour with 16 bits per channel. -/
structure Rgb where
  /-- The red channel. -/
  red : UInt16
  /-- The green channel. -/
  green : UInt16
  /-- The blue channel. -/
  blue : UInt16
deriving DecidableEq, Repr

namespace Rgb

/-- A channel from its leading hexadecimal digits, at most four of them. -/
def channel? (digits : List Char) : Option UInt16 :=
  (Numeral.value? 16 digits).map fun n => UInt16.ofNat (n * Nat.pow 16 (4 - digits.length))

/-- Three channels from groups of `width` digits each. -/
def ofGroups? (width : Nat) (digits : List Char) : Option Rgb := do
  let red ← channel? (digits.take width)
  let green ← channel? ((digits.drop width).take width)
  let blue ← channel? (digits.drop (2 * width))
  return ⟨red, green, blue⟩

/-- Reads the `#` form. -/
def parse? (spec : String) : Option Rgb :=
  match spec.toList with
  | '#' :: digits =>
    if digits.length % 3 = 0 ∧ digits.length ≤ 12 then ofGroups? (digits.length / 3) digits else none
  | _ => none

end Rgb

/-- A colour cell of a display: the pixel value that stands for it and the colour it shows. -/
structure AllocatedColor where
  /-- The pixel value. -/
  pixel : UInt32
  /-- The colour shown. -/
  rgb : Rgb
deriving DecidableEq, Repr

end WmConfig
