import WmConfig.Number.Decimal
import WmConfig.Text.Blank
import WmConfig.Text.Split

/-! # Font descriptors

A descriptor has the form `family, family-size:property:property`. The size after the last hyphen
counts only if it is a positive number; otherwise the hyphen belongs to a family name. Properties
act one after the other: `size=`, `pixelsize=` and `style=` set a value, and a bare word may name a
style. Everything that is not understood is passed over, so each text has a descriptor. -/

namespace WmConfig

/-- The size of a font. -/
inductive FontSize where
  /-- A size in points. -/
  | points (size : Binary32)
  /-- A size in pixels. -/
  | pixels (size : Binary32)
deriving DecidableEq

/-- A font asked for. -/
structure FontDescriptor where
  /-- The text it was read from. -/
  raw : String
  /-- The families, the preferred one first. -/
  families : List String
  /-- The size. -/
  size : FontSize
  /-- The style, if one is asked for. -/
  style : Option String
deriving DecidableEq

/-- A font ready for drawing. -/
structure LoadedFont where
  /-- The descriptor that it was opened for. -/
  descriptor : String
  /-- The family found. -/
  family : String
  /-- The size in pixels. -/
  pixelSize : Binary32
deriving DecidableEq

namespace FontDescriptor

/-- The size of a descriptor that names none: twelve points. -/
def defaultSize : FontSize := .points (.ofInt 12)

/-- The words that name a style, with the style they name. -/
def styleWords : List (String × String) := [
  ("bold", "Bold"), ("italic", "Italic"), ("oblique", "Oblique"),
  ("light", "Light"), ("medium", "Medium"), ("regular", "Regular")]

/-- A size with white space around it. -/
def sizeOf? (cs : List Char) : Option Binary32 := Binary.ofText? .single (trim cs)

/-- The part before the properties, cut into the families and the size. -/
def splitSize (head : List Char) : List Char × FontSize :=
  match cutLast? '-' head with
  | some (families, size) =>
    match sizeOf? size with
    | some x => if (Binary.zero false).lt x then (families, .points x) else (head, defaultSize)
    | none => (head, defaultSize)
  | none => (head, defaultSize)

/-- The family names of a list with commas: trimmed, without backslashes, the empty ones left
out. -/
def familiesOf (cs : List Char) : List String :=
  ((cs.splitOn ',').map fun family => String.ofList ((trim family).filter (· != '\\'))).filter
    (· != "")

/-- The style that a bare word names, in any case. -/
def styleOf? (word : List Char) : Option String :=
  styleWords.lookup (String.ofList ((trim word).map Char.toLower))

/-- Applies one property. -/
def applyProperty (d : FontDescriptor) (property : List Char) : FontDescriptor :=
  match cutFirst? '=' property with
  | some (key, value) =>
    if key = "size".toList then { d with size := ((sizeOf? value).map .points).getD d.size }
    else if key = "pixelsize".toList then { d with size := ((sizeOf? value).map .pixels).getD d.size }
    else if key = "style".toList then { d with style := some (String.ofList (trim value)) }
    else d
  | none => { d with style := (styleOf? property) <|> d.style }

/-- The descriptor before any property. -/
def ofHead (raw : String) (head : List Char) : FontDescriptor :=
  let (families, size) := splitSize head
  { raw, families := familiesOf families, size, style := none }

/-- Reads a descriptor. -/
def parse (raw : String) : FontDescriptor :=
  match raw.toList.splitOn ':' with
  | [] => ofHead raw []
  | head :: properties => properties.foldl applyProperty (ofHead raw head)

/-- The size in pixels, at 96 pixels and 72 points to the inch. -/
def pixelSize (d : FontDescriptor) : Binary32 :=
  match d.size with
  | .points size => (size.mulNat 96).divNat 72
  | .pixels size => size

/-- The preferred family; the empty name leaves the choice open. -/
def primaryFamily (d : FontDescriptor) : String := d.families.headD ""

/-- The font that a display opens when it has every font. -/
def loaded (d : FontDescriptor) : LoadedFont := ⟨d.raw, d.primaryFamily, d.pixelSize⟩

end FontDescriptor

end WmConfig
