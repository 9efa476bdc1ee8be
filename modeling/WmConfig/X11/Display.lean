import WmConfig.Keyboard
import WmConfig.Platform.Basic
import WmConfig.X11.Protocol

/-! # Displays

A screen of an X11 server as a platform. Where the server joins its screens into one, fonts and
colours belong to the default screen, otherwise to the screen that the session is for. -/

namespace WmConfig.X11

/-- A screen of a server. -/
structure Display where
  /-- The screen that the session is for. -/
  screen : Nat
  /-- The screen that fonts and colours belong to. -/
  physScreen : Nat
  /-- The default colour map of that screen. -/
  colormap : UInt32
deriving DecidableEq

/-- A dialogue with a server. -/
abbrev Dialogue (σ : Type) : Type → Type := ExceptT Failure (StateM σ)

namespace Dialogue

variable {σ α : Type}

/-- Holds the dialogue from a state of the server on. -/
def hold (d : Dialogue σ α) (state : σ) : Except Failure α × σ := (d.run.run state : Id _)

/-- Sends a request and waits for the reply; `context` says what for. -/
def ask (server : Server σ) (r : Request) (context : String) : Dialogue σ r.Reply := do
  match ← modifyGet (server.reply? r) with
  | some reply => return reply
  | none => throw (.because context)

end Dialogue

namespace Display

variable {σ : Type}

/-- The name of the extension that joins screens. -/
def xinerama : String := "XINERAMA"

/-- Whether the server has joined its screens into one. -/
def screensJoined (server : Server σ) : Dialogue σ Bool := do
  let isPresent : Bool ← Dialogue.ask server (.queryExtension xinerama)
    "Failed to query Xinerama extension"
  if isPresent then
    let state : UInt32 ← Dialogue.ask server .xineramaIsActive
      "Failed to get reply for Xinerama IsActive"
    return state != 0
  else return false

/-- The display of a screen. -/
def connect (server : Server σ) (screen defaultScreen : Nat) : Dialogue σ Display := do
  let physScreen := if ← screensJoined server then defaultScreen else screen
  match server.setup.colormaps[physScreen]? with
  | some colormap => return ⟨screen, physScreen, colormap⟩
  | none => throw (.because ("Screen " ++ toString physScreen ++ " does not exist"))

/-- Allocates a colour given by its text. The colour is the one that the screen shows. -/
def allocColor (server : Server σ) (d : Display) (spec : String) : Dialogue σ AllocatedColor := do
  match Rgb.parse? spec with
  | some rgb =>
    Dialogue.ask server (.allocColor d.colormap rgb)
      ("Server refused to allocate color " ++ spec)
  | none =>
    let reply : NamedColor ← Dialogue.ask server (.allocNamedColor d.colormap spec)
      ("Unknown color name " ++ spec)
    return ⟨reply.pixel, reply.visual⟩

/-- The bit of the modifier that the key for the keypad lock acts as. -/
def numLockMask (server : Server σ) : Dialogue σ UInt16 := do
  let least := server.setup.minKeycode
  let keyboard : KeyboardMapping ←
    Dialogue.ask server (.getKeyboardMapping least (server.setup.maxKeycode - least + 1))
      "Failed to get reply for GetKeyboardMapping"
  let keycode := Keyboard.keycodeOf? keyboard.keysyms keyboard.width.toNat least Keyboard.numLock
  let modifiers : List UInt8 ← Dialogue.ask server .getModifierMapping
    "Failed to get reply for GetModifierMapping"
  return Keyboard.modifierOf modifiers (modifiers.length / Keyboard.modifierCount) keycode

/-- The display as a platform; fonts are opened without the server. -/
def platform (server : Server σ) (d : Display)
    (openFont : FontDescriptor → Except Failure LoadedFont) : Platform σ where
  screen := d.screen
  physScreen := d.physScreen
  openFont descriptor state := (openFont descriptor, state)
  allocColor spec := (d.allocColor server spec).hold
  numLockMask := (numLockMask server).hold

end Display

end WmConfig.X11
