import WmConfig.Session.KeyBinding
import WmConfig.Session.Layout
import WmConfig.Session.Rule
import WmConfig.Session.Theme

/-! # Sessions

All that a window manager needs to run: settings with every name resolved and every resource
allocated. -/

namespace WmConfig

namespace Session

/-- The general settings of a session. -/
structure General where
  /-- The width of window borders in pixels. -/
  border : UInt16
  /-- The distance in pixels at which a moved window snaps to an edge. -/
  snap : UInt16
  /-- Whether the size hints of windows are honoured. -/
  resizeHints : Bool
  /-- The opacity of unfocused windows in percent. -/
  opacityUnfocused : UInt8
  /-- Whether the pointer follows the focus. -/
  focusMovePointer : Bool
  /-- The font. -/
  font : String
deriving DecidableEq

/-- The text shown first in the status bar. -/
def initialText : String := "awesome-2.0.0"

end Session

/-- A session. -/
structure Session where
  /-- The text of the status bar. -/
  statusText : String
  /-- The screen that the session is for. -/
  screen : Nat
  /-- The screen that fonts and colours belong to. -/
  physScreen : Nat
  /-- The general settings. -/
  general : Session.General
  /-- The colours. -/
  colors : Palette AllocatedColor
  /-- What drawing needs. -/
  theme : Session.Theme
  /-- The status bar. -/
  statusBar : Session.StatusBar
  /-- The layouts. -/
  layouts : List Session.Layout
  /-- The place of the current layout in the list of layouts. -/
  currentLayout : Nat
  /-- How the tiling layouts divide the screen. -/
  tiling : Session.Tiling
  /-- The rules. -/
  rules : List Session.Rule
  /-- The tags. -/
  tags : List Session.Tag
  /-- The key bindings. -/
  keys : List Session.KeyBinding
  /-- The bit of the main modifier. -/
  modkey : UInt16
  /-- The bit of the modifier that locks the keypad. -/
  numLockMask : UInt16

namespace Session

/-- The current layout. -/
def layout? (s : Session) : Option Layout := s.layouts[s.currentLayout]?

/-- The tags that are shown. -/
def selectedTags (s : Session) : List Tag := s.tags.filter (·.selected)

end Session

end WmConfig
