/-! # Keyboard maps

A keyboard map lists, for each keycode from the lowest one on, the keysyms that the key produces,
the same number for each; a modifier map lists, for each of the eight modifiers, the keycodes that
act as it. Both come as one flat list, cut into rows of one width.

* `keycodeOf?`: the keycode that produces a keysym, columns before rows.
* `modifierOf`: the modifier bit that a keycode acts as. -/

namespace WmConfig.Keyboard

/-- How many modifiers a modifier map has. -/
def modifierCount : Nat := 8

/-- The keysym of the key that locks the keypad to digits. -/
def numLock : UInt32 := 0xff7f

/-- The complete rows of the given width, in order; a shorter rest is left out. -/
def rows {α : Type} (width : Nat) (cells : List α) : List (List α) :=
  if width = 0 then []
  else (List.range (cells.length / width)).map fun i => (cells.drop (i * width)).take width

/-- The keycode of a row, if a byte can hold it. -/
def keycodeOfRow? (minKeycode : UInt8) (row : Nat) : Option UInt8 :=
  if minKeycode.toNat + row ≤ 255 then some (minKeycode + UInt8.ofNat row) else none

/-- The first keycode that produces `target` in some column, earlier columns first. Only the first
row of a column that holds the target counts for the column. -/
def keycodeOf? (keysyms : List UInt32) (width : Nat) (minKeycode : UInt8) (target : UInt32) :
    Option UInt8 :=
  let rows := rows width keysyms
  (List.range width).findSome? fun column =>
    (rows.findIdx? fun row => row[column]? == some target).bind (keycodeOfRow? minKeycode)

/-- The bit of the last modifier whose row holds the keycode, zero if there is none. -/
def modifierOf (keycodes : List UInt8) (width : Nat) (keycode : Option UInt8) : UInt16 :=
  match keycode with
  | none => 0
  | some k =>
    ((rows width keycodes).take modifierCount).zipIdx.foldl
      (fun mask (row, slot) => if k ∈ row then 1 <<< UInt16.ofNat slot else mask) 0

end WmConfig.Keyboard
