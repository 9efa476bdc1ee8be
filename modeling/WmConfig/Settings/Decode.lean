import WmConfig.Settings.Basic
import WmConfig.Toml.Document

/-! # Strict decoding of sections

A section is decoded from a table as a whole: a key that is missing has its default, a key that is
not known is passed over, and a value that does not fit its field makes the decoding fail. An entry
of a list may also be written as an array of the values of its fields in order.

A section can be decoded out of a document that has been read, or straight out of a text, and the
two differ in what a date form is (`Dates`) and in what else is an entry (`row?`). -/

namespace WmConfig.Settings

open Toml

/-- What a date form is where a text is asked for. -/
inductive Dates where
  /-- Its canonical text, out of a document that has been read. -/
  | asText
  /-- Not a text, straight out of a text. -/
  | refused
deriving DecidableEq, Repr

/-! ### Fields -/

/-- A text. -/
def text? (dates : Dates) : Value → Option String
  | .string s => some s
  | .datetime d => if dates = .asText then some d.text else none
  | _ => none

/-- A truth value. -/
def bool? : Value → Option Bool
  | .boolean b => some b
  | _ => none

/-- A whole number. -/
def int? : Value → Option Int
  | .integer n => some n
  | _ => none

/-- A whole number below `bound`, from zero on. -/
def below? (bound : Int) (v : Value) : Option Nat :=
  ((int? v).filter fun n => 0 ≤ n ∧ n < bound).map Int.toNat

/-- A number of 16 bits. -/
def word16? (v : Value) : Option UInt16 := (below? UInt16.size v).map UInt16.ofNat

/-- A number of 32 bits. -/
def word32? (v : Value) : Option UInt32 := (below? UInt32.size v).map UInt32.ofNat

/-- A floating-point number, or the one nearest to a whole number. -/
def float? : Value → Option Binary64
  | .float x => some x
  | .integer n => some (.ofInt n)
  | _ => none

/-- A name, or a list of names. -/
def names? (dates : Dates) (v : Value) : Option (List String) :=
  match text? dates v, v with
  | some name, _ => some [name]
  | none, .array items => items.mapM (text? dates)
  | none, _ => none

/-- The field of a table, or its default. -/
def field? {α : Type} (t : Table) (key : String) (read? : Value → Option α) (default : α) :
    Option α :=
  match t.get? key with
  | some v => read? v
  | none => some default

/-- An entry of a list as a table. Out of a document, an array has no more values than there are
fields, and a date form is no entry. Straight out of a text, further values are passed over, and a
date form has its own spelling as a table. -/
def row? (dates : Dates) (fields : List String) : Value → Option Table
  | .table t => some t
  | .array items =>
    if dates = .asText ∧ fields.length < items.length then none else some (fields.zip items)
  | .datetime d => if dates = .asText then none else some [(reservedDateKey, .string d.text)]
  | _ => none

/-- The entries of a list. -/
def entries? {α : Type} (dates : Dates) (fields : List String) (decode? : Table → Option α) :
    Value → Option (List α)
  | .array items => items.mapM fun item => (row? dates fields item).bind decode?
  | _ => none

/-! ### Sections -/

variable (dates : Dates) (t : Table)

/-- The section `general`. -/
def General.decode? : Option General := do
  let default : General := {}
  return {
    border := ← field? t "border" word16? default.border
    snap := ← field? t "snap" word16? default.snap
    resizeHints := ← field? t "resize_hints" bool? default.resizeHints
    opacityUnfocused := ← field? t "opacity_unfocused" int? default.opacityUnfocused
    focusMovePointer := ← field? t "focus_move_pointer" bool? default.focusMovePointer
    font := ← field? t "font" (text? dates) default.font }

/-- The section `colors`. -/
def decodeColors? : Option (Palette String) := do
  let default := defaultColors
  return {
    normalBorder := ← field? t "normal_border" (text? dates) default.normalBorder
    normalBackground := ← field? t "normal_bg" (text? dates) default.normalBackground
    normalForeground := ← field? t "normal_fg" (text? dates) default.normalForeground
    focusBorder := ← field? t "focus_border" (text? dates) default.focusBorder
    focusBackground := ← field? t "focus_bg" (text? dates) default.focusBackground
    focusForeground := ← field? t "focus_fg" (text? dates) default.focusForeground }

/-- The section `statusbar`. -/
def Statusbar.decode? : Option Statusbar := do
  let default : Statusbar := {}
  return { position := ← field? t "position" (text? dates) default.position }

/-- The fields of an entry of `tags.tag`, in order. -/
def Tag.fields : List String := ["title", "layout"]

/-- An entry of `tags.tag`. -/
def Tag.decode? : Option Tag := do
  let title ← (t.get? "title").bind (text? dates)
  let default : Tag := { title }
  return { title, layout := ← field? t "layout" (text? dates) default.layout }

/-- The section `tags`. -/
def decodeTags? : Option (List Tag) :=
  field? t "tag" (entries? dates Tag.fields (Tag.decode? dates)) []

/-- The fields of an entry of `layouts.layout`, in order. -/
def Layout.fields : List String := ["title", "symbol"]

/-- An entry of `layouts.layout`. -/
def Layout.decode? : Option Layout := do
  let title ← (t.get? "title").bind (text? dates)
  let default : Layout := { title }
  return { title, symbol := ← field? t "symbol" (text? dates) default.symbol }

/-- The section `layouts`. -/
def Layouts.decode? : Option Layouts := do
  let default : Layouts := {}
  return {
    layout :=
      ← field? t "layout" (entries? dates Layout.fields (Layout.decode? dates)) default.layout
    mwfact := ← field? t "mwfact" float? default.mwfact
    nmaster := ← field? t "nmaster" word32? default.nmaster
    ncol := ← field? t "ncol" word32? default.ncol }

/-- The fields of an entry of `rules.rule`, in order. -/
def Rule.fields : List String := ["name", "tags", "float"]

/-- An entry of `rules.rule`. -/
def Rule.decode? : Option Rule := do
  let default : Rule := {}
  return {
    name := ← field? t "name" (text? dates) default.name
    tags := ← field? t "tags" (text? dates) default.tags
    float := ← field? t "float" bool? default.float }

/-- The section `rules`. -/
def decodeRules? : Option (List Rule) :=
  field? t "rule" (entries? dates Rule.fields (Rule.decode? dates)) []

/-- The fields of an entry of `keys.key`, in order. -/
def Key.fields : List String := ["modkey", "key", "command", "arg"]

/-- An entry of `keys.key`. -/
def Key.decode? : Option Key := do
  let default : Key := {}
  return {
    modkey := ← field? t "modkey" (names? dates) default.modkey
    key := ← field? t "key" (text? dates) default.key
    command := ← field? t "command" (text? dates) default.command
    arg := ← field? t "arg" (fun v => (text? dates v).map some) default.arg }

/-- The section `keys`. -/
def Keys.decode? : Option Keys := do
  let default : Keys := {}
  return {
    modkey := ← field? t "modkey" (text? dates) default.modkey
    key := ← field? t "key" (entries? dates Key.fields (Key.decode? dates)) default.key }

end WmConfig.Settings
