import WmConfig.Color
import WmConfig.Font.Descriptor
import WmConfig.Palette

/-! # Themes and the status bar

What is needed to draw: the font and the pixels, and where the status bar stands. -/

namespace WmConfig.Session

/-- The pixels of a window or a tag in one state of focus. -/
structure ColorSet where
  /-- The border. -/
  border : UInt32
  /-- The background. -/
  background : UInt32
  /-- The text. -/
  foreground : UInt32
deriving DecidableEq

/-- What drawing needs. -/
structure Theme where
  /-- The font. -/
  font : LoadedFont
  /-- The pixels of what is not focused. -/
  normal : ColorSet
  /-- The pixels of what is focused. -/
  focused : ColorSet
  /-- The colour of text that is not focused. -/
  textNormal : Rgb
  /-- The colour of focused text. -/
  textFocused : Rgb
deriving DecidableEq

/-- The theme made of a font and a palette. -/
def Theme.ofPalette (font : LoadedFont) (colors : Palette AllocatedColor) : Theme where
  font
  normal := ⟨colors.normalBorder.pixel, colors.normalBackground.pixel, colors.normalForeground.pixel⟩
  focused := ⟨colors.focusBorder.pixel, colors.focusBackground.pixel, colors.focusForeground.pixel⟩
  textNormal := colors.normalForeground.rgb
  textFocused := colors.focusForeground.rgb

/-- Where the status bar stands. -/
inductive BarPosition where
  | top | bottom | off
deriving DecidableEq, Repr

/-- The position that a text names; any other text names the top. -/
def BarPosition.ofText (text : String) : BarPosition :=
  if text = "off" then off else if text = "bottom" then bottom else top

/-- The status bar. -/
structure StatusBar where
  /-- The position it returns to. -/
  defaultPosition : BarPosition
  /-- The position it has. -/
  position : BarPosition
deriving DecidableEq

/-- The status bar at its default position. -/
def StatusBar.at (position : BarPosition) : StatusBar := ⟨position, position⟩

end WmConfig.Session
