import WmConfig.Command
import WmConfig.Keysym.Spelling
import WmConfig.Modifier
import WmConfig.Settings.Basic
import WmConfig.Warning

/-! # Key bindings

The key bindings of a session. Each entry has one; a command or a key that is not known is reported,
and the binding is then idle. -/

namespace WmConfig.Session

/-- A key binding. -/
structure KeyBinding where
  /-- The bits of the modifiers. -/
  modifiers : UInt16
  /-- The code of the key. -/
  keysym : UInt32
  /-- The command, if it is known. -/
  command : Option Command
  /-- The argument of the command. -/
  arg : Option String
deriving DecidableEq

/-- The name that stands for no key on purpose. -/
def noKey : String := "None"

/-- The key binding of an entry. -/
def KeyBinding.ofSettings (entry : Settings.Key) : Reported KeyBinding := do
  let command := Command.ofName? entry.command
  Reported.warnIf (command.isNone && entry.command != "") (.unknownCommand entry.command entry.key)
  let keysym := Keysym.ofName entry.key
  Reported.warnIf (keysym == Keysym.none && entry.key != noKey) (.unknownKey entry.key entry.command)
  return { modifiers := modifierListMask entry.modkey, keysym, command, arg := entry.arg }

/-- The bit of the main modifier: that of the fourth one, unless another is named. -/
def mainModifier (name : String) : UInt16 :=
  if modifierMask name = 0 then Modifier.mod4.bit else modifierMask name

end WmConfig.Session
