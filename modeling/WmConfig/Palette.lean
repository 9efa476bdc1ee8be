/-! # Palettes

The six places of a theme that have a colour. A palette of texts is what the configuration says, a
palette of allocated colours is what a display made of it. -/

namespace WmConfig

/-- Something for each of the six colours of a theme. -/
structure Palette (α : Type) where
  /-- The border of other windows. -/
  normalBorder : α
  /-- The background of other tags. -/
  normalBackground : α
  /-- The text of other tags. -/
  normalForeground : α
  /-- The border of the focused window. -/
  focusBorder : α
  /-- The background of the selected tags. -/
  focusBackground : α
  /-- The text of the selected tags. -/
  focusForeground : α
deriving DecidableEq

namespace Palette

variable {α β : Type}

/-- The six entries in order. -/
def toList (p : Palette α) : List α :=
  [p.normalBorder, p.normalBackground, p.normalForeground,
    p.focusBorder, p.focusBackground, p.focusForeground]

/-- Runs an action on the six entries in order. -/
def mapM {m : Type → Type} [Monad m] (f : α → m β) (p : Palette α) : m (Palette β) := do
  let normalBorder ← f p.normalBorder
  let normalBackground ← f p.normalBackground
  let normalForeground ← f p.normalForeground
  let focusBorder ← f p.focusBorder
  let focusBackground ← f p.focusBackground
  let focusForeground ← f p.focusForeground
  return { normalBorder, normalBackground, normalForeground,
           focusBorder, focusBackground, focusForeground }

end Palette

end WmConfig
