import WmConfig.Platform.Basic

/-! # Scripted platforms

A scripted platform has every font and gives out the pixels 1, 2, 3 and so on, one for each colour.
Its script names further colours and what is to fail. -/

namespace WmConfig

/-- What a scripted platform does. -/
structure Script where
  /-- The screen that the session is for. -/
  screen : Nat := 0
  /-- The screen that fonts and colours belong to. -/
  physScreen : Nat := 0
  /-- The modifier that locks the keypad. -/
  numLock : UInt16 := 16
  /-- The colours known by name. -/
  colors : List (String × Rgb) := []
  /-- The colours that cannot be allocated. -/
  colorFailures : List (String × Failure) := []
  /-- Why no font can be opened. -/
  fontFailure : Option Failure := none
  /-- Why the modifiers cannot be told. -/
  numLockFailure : Option Failure := none

namespace Script

/-- The colour of a text: written out, or known by name. -/
def color? (s : Script) (spec : String) : Except Failure Rgb :=
  match s.colorFailures.lookup spec with
  | some failure => .error failure
  | none =>
    match Rgb.parse? spec <|> s.colors.lookup spec with
    | some rgb => .ok rgb
    | none => .error (.because ("Unknown color name " ++ spec))

/-- A value, unless there is a failure. -/
def unlessFailing {α : Type} (failure : Option Failure) (a : α) : Except Failure α :=
  match failure with
  | some f => .error f
  | none => .ok a

/-- The platform of a script. Its state is the number of colours allocated. -/
def platform (s : Script) : Platform Nat where
  screen := s.screen
  physScreen := s.physScreen
  openFont d allocated := (unlessFailing s.fontFailure d.loaded, allocated)
  allocColor spec allocated :=
    match s.color? spec with
    | .ok rgb => (.ok ⟨UInt32.ofNat (allocated + 1), rgb⟩, allocated + 1)
    | .error failure => (.error failure, allocated)
  numLockMask allocated := (unlessFailing s.numLockFailure s.numLock, allocated)

end Script

end WmConfig
