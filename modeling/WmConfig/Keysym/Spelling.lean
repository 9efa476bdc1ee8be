import WmConfig.Keysym.Named
import WmConfig.Number.Numeral

/-! # Keysyms from their spelling

A key is written as a name of the vocabulary, as a function key (`F1` to `F35`, with `L1` to `L10`
and `R1` to `R15` for the later ones), as a single printable Latin-1 character, as a code
(`0x` and hexadecimal digits) or as a Unicode scalar value (`U` and hexadecimal digits). The forms
are tried in this order; every other text stands for no key. -/

namespace WmConfig.Keysym

/-- The code that stands for no key. -/
def none : UInt32 := 0

/-- The code of the key `F1`; the other function keys follow. -/
def firstFunctionKey : UInt32 := 0xffbe

/-- Added to a scalar value outside printable Latin-1 to form its code. -/
def unicodeOffset : UInt32 := 0x1000000

/-- A letter of the function keys: how many function keys stand before its first, and how many it
has. -/
def functionRow? : Char → Option (Nat × Nat)
  | 'F' => some (0, 35)
  | 'L' => some (10, 10)
  | 'R' => some (20, 15)
  | _ => Option.none

/-- A function key. -/
def function? : List Char → Option UInt32
  | [] => Option.none
  | c :: cs => do
    let (before, count) ← functionRow? c
    let n ← (Numeral.word? 10 cs).filter fun n => 1 ≤ n ∧ n ≤ count
    return firstFunctionKey + UInt32.ofNat (before + n - 1)

/-- Whether a scalar value is a printable character of Latin-1. -/
def isLatin (n : Nat) : Bool := (0x20 ≤ n && n ≤ 0x7e) || (0xa0 ≤ n && n ≤ 0xff)

/-- The code of a scalar value: itself in printable Latin-1, and offset elsewhere. -/
def ofScalar (n : Nat) : UInt32 := if isLatin n then UInt32.ofNat n else unicodeOffset + UInt32.ofNat n

/-- A single printable character. -/
def character? : List Char → Option UInt32
  | [c] => if isLatin c.toNat then some (UInt32.ofNat c.toNat) else Option.none
  | _ => Option.none

/-- A code in hexadecimal. -/
def code? : List Char → Option UInt32
  | '0' :: 'x' :: cs => (Numeral.word? 16 cs).map UInt32.ofNat
  | _ => Option.none

/-- A scalar value in hexadecimal. -/
def scalar? : List Char → Option UInt32
  | 'U' :: cs => ((Numeral.word? 16 cs).filter Nat.isValidChar).map ofScalar
  | _ => Option.none

/-- The code of a key, `Keysym.none` for a text that stands for no key. -/
def ofName (name : String) : UInt32 :=
  let cs := name.toList
  (named.lookup name <|> function? cs <|> character? cs <|> code? cs <|> scalar? cs).getD none

end WmConfig.Keysym
