import WmConfig.Arrangement
import WmConfig.Settings.Basic
import WmConfig.Warning

/-! # Layouts and tags

The layouts of a session, and the tags that windows are put under. A layout whose name is not known
keeps its place in the list but cannot be used. -/

namespace WmConfig.Session

/-- A layout. -/
structure Layout where
  /-- The name. -/
  name : String
  /-- The sign shown for it. -/
  symbol : Option String
  /-- How it arranges windows, if its name is known. -/
  arrangement : Option Arrangement
deriving DecidableEq

namespace Layout

/-- Whether it can be used. -/
def isUsable (l : Layout) : Bool := l.arrangement.isSome

/-- The layout of an entry at the given place of the list. -/
def ofSettings (entry : Settings.Layout × Nat) : Reported Layout :=
  match Arrangement.ofName? entry.1.title with
  | some a => pure ⟨entry.1.title, some entry.1.symbol, some a⟩
  | none => ⟨⟨entry.1.title, none, none⟩, [.unknownLayout entry.2 entry.1.title]⟩

/-- The layouts of the entries of a list. -/
def ofEntries (entries : List Settings.Layout) : Reported (List Layout) :=
  Reported.map ofSettings entries.zipIdx

end Layout

/-- How the tiling layouts divide the screen. -/
structure Tiling where
  /-- The share of the master area. -/
  mwfact : Binary64
  /-- The number of windows in the master area. -/
  nmaster : UInt32
  /-- The number of columns beside it. -/
  ncol : UInt32
deriving DecidableEq

/-- A tag. -/
structure Tag where
  /-- The name. -/
  name : String
  /-- Whether it is shown. -/
  selected : Bool
  /-- Whether it was shown before. -/
  wasSelected : Bool
  /-- The place of its layout in the list of layouts. -/
  layout : Nat
deriving DecidableEq

/-- The tags of the entries of a list: the first one is selected, and all have the layout at the
given place. -/
def Tag.ofEntries (layout : Nat) : List Settings.Tag → List Tag
  | [] => []
  | first :: rest =>
    ⟨first.title, true, true, layout⟩ :: rest.map fun t => ⟨t.title, false, false, layout⟩

end WmConfig.Session
