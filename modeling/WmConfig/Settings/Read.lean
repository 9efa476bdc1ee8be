import WmConfig.Settings.Decode
import WmConfig.Warning

/-! # Lenient reading of settings

A configuration is read as far as it can be. A document with a fault, or a file that cannot be
read, gives the defaults. Past that, each field is tried on its own: one that does not fit has its
default and is reported, and its neighbours are not affected. List entries are read one by one, and
tags and layouts without a title are left out.

* `ofTable`: the settings of a document, with one warning for each thing passed over.
* `parse`: the settings of a text.
* `ofBytes`: the settings of a file. -/

namespace WmConfig.Settings

open Toml

/-- The entries of a table in the order of their keys. -/
def inKeyOrder (t : Table) : Table := t.mergeSort fun a b => decide (a.1 ≤ b.1)

/-- Decodes a table field by field. A field fits if the table of this field and the required ones
alone can be decoded; one that does not fit is left out and reported under `path`. -/
def lenient? {α : Type} (decode? : Table → Option α) (path : String) (required : List String)
    (t : Table) : Reported (Option α) :=
  let kept := t.filter fun e => required.contains e.1
  let others := inKeyOrder (t.filter fun e => !required.contains e.1)
  let fits (e : String × Value) : Bool := (decode? (kept ++ [e])).isSome
  { value := decode? (kept ++ others.filter fits)
    warnings := (others.filter fun e => !fits e).map fun e => .fieldInvalid path e.1 }

/-- The table of a section, if the document has one. -/
def sectionTable (root : Table) (name : String) : Reported (Option Table) :=
  match root.get? name with
  | none => pure none
  | some (.table t) => pure (some t)
  | some v => ⟨none, [.sectionNotTable name v.kind]⟩

/-- The fields of a section, apart from the lists among them, which are read entry by entry. -/
def scalars {α : Type} (decode? : Table → Option α) (default : α) (name : String)
    (lists : List String) (t : Option Table) : Reported α :=
  match t with
  | none => pure default
  | some t => do
    match ← lenient? decode? name [] (t.filter fun e => !lists.contains e.1) with
    | some fields => pure fields
    | none => ⟨default, [.sectionInvalid name]⟩

/-- The items of a list; a single value stands for a list of one. -/
def itemsOf (t : Option Table) (key : String) : List Value :=
  match t.bind (Table.get? · key) with
  | none => []
  | some (.array items) => items
  | some v => [v]

/-- An entry of a list, if it can be read. -/
def entry {α : Type} (decode? : Table → Option α) (path : String) (titled : Bool)
    (item : Value × Nat) : Reported (Option α) :=
  match item.1 with
  | .table t =>
    if titled && !(Table.get? t "title").any Value.isString then
      ⟨none, [.entryUntitled path item.2]⟩
    else do
      match ← lenient? decode? path (if titled then ["title"] else []) t with
      | some e => pure (some e)
      | none => ⟨none, [.entryInvalid path item.2]⟩
  | v => ⟨none, [.entryNotTable path item.2 v.kind]⟩

/-- The entries of a list. -/
def entries {α : Type} (decode? : Table → Option α) (name key : String) (titled : Bool)
    (t : Option Table) : Reported (List α) :=
  Reported.filterMap (entry decode? (name ++ "." ++ key) titled) (itemsOf t key).zipIdx

/-- The largest opacity in percent. -/
def maxOpacity : Int := 100

/-- Brings the opacity into its range. -/
def clampOpacity (n : Int) : Int := max 0 (min n maxOpacity)

/-- Whether a share of the master area is positive and at most one. -/
def isShare (x : Binary64) : Bool := (Binary.zero false).lt x && x.le (.ofInt 1)

/-- Brings what has a range into it. -/
def inRange (s : Settings) : Reported Settings :=
  let opacity := s.general.opacityUnfocused
  let clamped := clampOpacity opacity
  let mwfact := s.layouts.mwfact
  let used := if isShare mwfact then mwfact else defaultMwfact
  { value :=
      { s with
        general := { s.general with opacityUnfocused := clamped }
        layouts := { s.layouts with mwfact := used } }
    warnings :=
      (if opacity = clamped then [] else [.opacityClamped opacity clamped]) ++
      (if isShare mwfact then [] else [.mwfactReplaced mwfact used]) }

/-- The settings of a document before their ranges are checked. -/
def sections (root : Table) : Reported Settings := do
  let tagsTable ← sectionTable root "tags"
  let layoutsTable ← sectionTable root "layouts"
  let rulesTable ← sectionTable root "rules"
  let keysTable ← sectionTable root "keys"
  let general ← scalars (General.decode? .asText) {} "general" [] (← sectionTable root "general")
  let colors ← scalars (decodeColors? .asText) defaultColors "colors" [] (← sectionTable root "colors")
  let statusbar ←
    scalars (Statusbar.decode? .asText) {} "statusbar" [] (← sectionTable root "statusbar")
  let tags ← entries (Tag.decode? .asText) "tags" "tag" true tagsTable
  let layout ← entries (Layout.decode? .asText) "layouts" "layout" true layoutsTable
  let layouts ← scalars (Layouts.decode? .asText) {} "layouts" ["layout"] layoutsTable
  let rules ← entries (Rule.decode? .asText) "rules" "rule" false rulesTable
  let key ← entries (Key.decode? .asText) "keys" "key" false keysTable
  let keys ← scalars (Keys.decode? .asText) {} "keys" ["key"] keysTable
  return {
    general, colors, statusbar, tags, rules
    layouts := { layouts with layout }
    keys := { keys with key } }

/-- The settings of a document. -/
def ofTable (root : Table) : Reported Settings := sections root >>= inRange

/-- The settings of a text. -/
def parse (text : String) : Reported Settings :=
  match (Toml.parse? text).bind Table.withDates? with
  | some root => ofTable root
  | none => ⟨{}, [.malformed]⟩

/-- The settings of a file, given its bytes if it can be read. -/
def ofBytes (contents : Option ByteArray) : Reported Settings :=
  match contents.bind String.fromUTF8? with
  | some text => parse text
  | none => ⟨{}, [.unreadable]⟩

end WmConfig.Settings
