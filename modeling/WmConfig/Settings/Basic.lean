import WmConfig.Number.Binary
import WmConfig.Palette

/-! # Settings

What a configuration file says, every section filled in. A field that the file leaves out has the
default given here; the lists are empty by default. -/

namespace WmConfig

namespace Settings

/-- The section `general`. -/
structure General where
  /-- The width of window borders in pixels. -/
  border : UInt16 := 1
  /-- The distance in pixels at which a moved window snaps to an edge. -/
  snap : UInt16 := 8
  /-- Whether the size hints of windows are honoured. -/
  resizeHints : Bool := false
  /-- The opacity of unfocused windows in percent. -/
  opacityUnfocused : Int := 100
  /-- Whether the pointer follows the focus. -/
  focusMovePointer : Bool := false
  /-- The font. -/
  font : String := "mono-12"
deriving DecidableEq

/-- The default colours. -/
def defaultColors : Palette String where
  normalBorder := "#111111"
  normalBackground := "#111111"
  normalForeground := "#eeeeee"
  focusBorder := "#6666ff"
  focusBackground := "#6666ff"
  focusForeground := "#ffffff"

/-- The section `statusbar`. -/
structure Statusbar where
  /-- Where the status bar stands. -/
  position : String := "top"
deriving DecidableEq

/-- An entry of `tags.tag`. -/
structure Tag where
  /-- The name of the tag. -/
  title : String
  /-- The layout asked for. -/
  layout : String := "tile"
deriving DecidableEq

/-- An entry of `layouts.layout`. -/
structure Layout where
  /-- The name of the layout. -/
  title : String
  /-- The sign shown for the layout. -/
  symbol : String := "???"
deriving DecidableEq

/-- One half, the share of the master area where none is given. -/
def defaultMwfact : Binary64 := .ofRatio false 1 2

/-- The section `layouts`. -/
structure Layouts where
  /-- The layouts, the default one first. -/
  layout : List Layout := []
  /-- The share of the master area. -/
  mwfact : Binary64 := defaultMwfact
  /-- The number of windows in the master area. -/
  nmaster : UInt32 := 1
  /-- The number of columns beside it. -/
  ncol : UInt32 := 1
deriving DecidableEq

/-- An entry of `rules.rule`. -/
structure Rule where
  /-- The pattern of window names. -/
  name : String := ""
  /-- The pattern of tag names. -/
  tags : String := ""
  /-- Whether the windows float. -/
  float : Bool := false
deriving DecidableEq

/-- An entry of `keys.key`. -/
structure Key where
  /-- The names of the modifiers. -/
  modkey : List String := ["Mod4"]
  /-- The name of the key. -/
  key : String := "None"
  /-- The name of the command. -/
  command : String := ""
  /-- The argument of the command. -/
  arg : Option String := none
deriving DecidableEq

/-- The section `keys`. -/
structure Keys where
  /-- The name of the main modifier. -/
  modkey : String := "Mod4"
  /-- The key bindings. -/
  key : List Key := []
deriving DecidableEq

end Settings

/-- What a configuration file says. -/
structure Settings where
  /-- The section `general`. -/
  general : Settings.General := {}
  /-- The section `colors`. -/
  colors : Palette String := Settings.defaultColors
  /-- The section `statusbar`. -/
  statusbar : Settings.Statusbar := {}
  /-- The section `tags`. -/
  tags : List Settings.Tag := []
  /-- The section `layouts`. -/
  layouts : Settings.Layouts := {}
  /-- The section `rules`. -/
  rules : List Settings.Rule := []
  /-- The section `keys`. -/
  keys : Settings.Keys := {}
deriving DecidableEq

end WmConfig
