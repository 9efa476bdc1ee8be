/-! # Commands

The actions that a key can be bound to. -/

namespace WmConfig

/-- An action of the window manager. -/
inductive Command where
  -- process
  | spawn | exec
  -- client
  | killClient | moveResize | setTrans | setBorder | swapNext | swapPrev
  -- tag
  | tag | toggleFloating | toggleView | toggleTag | view | viewTagPrevSelected | viewTagPrevious
  | viewTagNext
  -- layout
  | setLayout | focusNext | focusPrev | toggleMax | toggleVerticalMax | toggleHorizontalMax | zoom
  -- tiling parameters
  | setMwfact | setNmaster | setNcol
  -- screen
  | focusNextScreen | focusPrevScreen | moveToScreen
  -- session
  | quit
  -- status bar
  | toggleBar
deriving DecidableEq, Repr

namespace Command

/-- Every command, grouped by what it acts on. -/
def all : List Command := [
  spawn, exec,
  killClient, moveResize, setTrans, setBorder, swapNext, swapPrev,
  tag, toggleFloating, toggleView, toggleTag, view, viewTagPrevSelected, viewTagPrevious,
  viewTagNext,
  setLayout, focusNext, focusPrev, toggleMax, toggleVerticalMax, toggleHorizontalMax, zoom,
  setMwfact, setNmaster, setNcol,
  focusNextScreen, focusPrevScreen, moveToScreen,
  quit,
  toggleBar]

/-- The name used in the configuration. -/
def name : Command → String
  | spawn => "spawn"
  | exec => "exec"
  | killClient => "killclient"
  | moveResize => "moveresize"
  | setTrans => "settrans"
  | setBorder => "setborder"
  | swapNext => "swapnext"
  | swapPrev => "swapprev"
  | tag => "tag"
  | toggleFloating => "togglefloating"
  | toggleView => "toggleview"
  | toggleTag => "toggletag"
  | view => "view"
  | viewTagPrevSelected => "view_tag_prev_selected"
  | viewTagPrevious => "view_tag_previous"
  | viewTagNext => "view_tag_next"
  | setLayout => "setlayout"
  | focusNext => "focusnext"
  | focusPrev => "focusprev"
  | toggleMax => "togglemax"
  | toggleVerticalMax => "toggleverticalmax"
  | toggleHorizontalMax => "togglehorizontalmax"
  | zoom => "zoom"
  | setMwfact => "setmwfact"
  | setNmaster => "setnmaster"
  | setNcol => "setncol"
  | focusNextScreen => "focusnextscreen"
  | focusPrevScreen => "focusprevscreen"
  | moveToScreen => "movetoscreen"
  | quit => "quit"
  | toggleBar => "togglebar"

/-- The command with the given name. -/
def ofName? (name : String) : Option Command := all.find? (·.name == name)

end Command

end WmConfig
