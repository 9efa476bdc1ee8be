/-! # Modifier keys

The eight modifiers of a keyboard and the bits that stand for them in a key binding. -/

namespace WmConfig

/-- A modifier, in the order of the modifier map. -/
inductive Modifier where
  | shift | lock | control | mod1 | mod2 | mod3 | mod4 | mod5
deriving DecidableEq, Repr

namespace Modifier

/-- Every modifier, in the order of the modifier map. -/
def all : List Modifier := [shift, lock, control, mod1, mod2, mod3, mod4, mod5]

/-- The name used in the configuration. -/
def name : Modifier → String
  | shift => "Shift"
  | lock => "Lock"
  | control => "Control"
  | mod1 => "Mod1"
  | mod2 => "Mod2"
  | mod3 => "Mod3"
  | mod4 => "Mod4"
  | mod5 => "Mod5"

/-- The position in the modifier map. -/
def slot : Modifier → Nat
  | shift => 0
  | lock => 1
  | control => 2
  | mod1 => 3
  | mod2 => 4
  | mod3 => 5
  | mod4 => 6
  | mod5 => 7

/-- The modifier with the given name; names are case-sensitive. -/
def ofName? (name : String) : Option Modifier := all.find? (·.name == name)

/-- The bit of a modifier. -/
def bit (m : Modifier) : UInt16 := 1 <<< UInt16.ofNat m.slot

end Modifier

/-- The bit of the named modifier. `None` and unknown names stand for no modifier at all. -/
def modifierMask (name : String) : UInt16 :=
  match Modifier.ofName? name with
  | some m => m.bit
  | none => 0

/-- The bits of all modifiers in the list. -/
def modifierListMask (names : List String) : UInt16 :=
  names.foldl (fun mask name => mask ||| modifierMask name) 0

end WmConfig
