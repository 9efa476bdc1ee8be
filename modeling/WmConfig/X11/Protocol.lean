import WmConfig.Color

/-! # The X11 protocol

The requests that set up a session and the replies to them. -/

namespace WmConfig.X11

/-- What a server tells every client at first. -/
structure Setup where
  /-- The default colour map of each screen. -/
  colormaps : List UInt32
  /-- The lowest keycode. -/
  minKeycode : UInt8
  /-- The highest keycode. -/
  maxKeycode : UInt8

/-- A request. -/
inductive Request where
  /-- Whether the server has an extension. -/
  | queryExtension (name : String)
  /-- Whether the screens are joined into one. -/
  | xineramaIsActive
  /-- To allocate a colour given by its channels. -/
  | allocColor (colormap : UInt32) (rgb : Rgb)
  /-- To allocate a colour given by its name. -/
  | allocNamedColor (colormap : UInt32) (name : String)
  /-- The keysyms of a number of keycodes from the given one on. -/
  | getKeyboardMapping (first count : UInt8)
  /-- The keycodes of the modifiers. -/
  | getModifierMapping
deriving DecidableEq

/-- The reply to a named colour. -/
structure NamedColor where
  /-- The pixel value. -/
  pixel : UInt32
  /-- The colour that the name stands for. -/
  exact : Rgb
  /-- The colour that the screen shows. -/
  visual : Rgb
deriving DecidableEq

/-- The reply on the keyboard. -/
structure KeyboardMapping where
  /-- The number of keysyms for each keycode. -/
  width : UInt8
  /-- The keysyms, keycode after keycode. -/
  keysyms : List UInt32
deriving DecidableEq

namespace Request

/-- The kind of reply to a request. -/
def Reply : Request → Type
  | queryExtension _ => Bool
  | xineramaIsActive => UInt32
  | allocColor _ _ => AllocatedColor
  | allocNamedColor _ _ => NamedColor
  | getKeyboardMapping _ _ => KeyboardMapping
  | getModifierMapping => List UInt8

end Request

/-- A server with states of type `σ`. -/
structure Server (σ : Type) where
  /-- What it tells at first. -/
  setup : Setup
  /-- Answers a request with a reply, or with an error. -/
  reply? : (r : Request) → σ → Option r.Reply × σ

end WmConfig.X11
