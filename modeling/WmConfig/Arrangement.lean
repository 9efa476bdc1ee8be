/-! # Window arrangements

The ways to lay out the windows of a tag. -/

namespace WmConfig

/-- A way to lay out windows. -/
inductive Arrangement where
  | tile | tileLeft | max | floating
deriving DecidableEq, Repr

namespace Arrangement

/-- Every arrangement. -/
def all : List Arrangement := [tile, tileLeft, max, floating]

/-- The name used in the configuration. -/
def name : Arrangement → String
  | tile => "tile"
  | tileLeft => "tileleft"
  | max => "max"
  | floating => "floating"

/-- The arrangement with the given name. -/
def ofName? (name : String) : Option Arrangement := all.find? (·.name == name)

end Arrangement

end WmConfig
