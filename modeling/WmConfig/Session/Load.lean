import WmConfig.Platform.Basic
import WmConfig.Session.Basic
import WmConfig.Settings.Locate
import WmConfig.Settings.Read

/-! # Loading a session

A session is made of settings on a platform: first the font and the colours, then the layouts, the
rules and the tags, last the keys. What is not known is reported and left idle; a session cannot do
without its font, its colours, a first layout and a tag.

* `Loading.resolve`: the session of settings.
* `Loading.load`: the session of a configuration file, wherever that is. -/

namespace WmConfig

/-- Why there is no session. -/
inductive LoadError where
  /-- Neither a path nor a home directory is known. -/
  | noHomeDirectory
  /-- The first layout is missing or not known. -/
  | noDefaultLayout
  /-- There is no tag. -/
  | noTags
  /-- The font cannot be opened. -/
  | font (descriptor reason : String)
  /-- The colour cannot be allocated. -/
  | color (spec reason : String)
deriving DecidableEq

/-- The text shown. -/
def LoadError.message : LoadError → String
  | noHomeDirectory => "no configuration path given and no home directory found"
  | noDefaultLayout => "no default layout available"
  | noTags => "no tags found in configuration file"
  | font descriptor reason => "cannot init font '" ++ descriptor ++ "': " ++ reason
  | color spec reason => "cannot allocate color '" ++ spec ++ "': " ++ reason

/-- How far a load has come. -/
structure Progress (σ : Type) where
  /-- The state of the platform. -/
  platform : σ
  /-- The warnings so far. -/
  warnings : List Warning := []

/-- A step of a load. -/
abbrev Loading (σ : Type) : Type → Type := ExceptT LoadError (StateM (Progress σ))

namespace Loading

variable {σ α : Type}

/-- Runs a load from a state of the platform. -/
def start (load : Loading σ α) (state : σ) : Except LoadError α × Progress σ :=
  (load.run.run ⟨state, []⟩ : Id _)

/-- Acts on the platform. -/
def act (action : σ → α × σ) : Loading σ α :=
  modifyGet fun p => ((action p.platform).1, { p with platform := (action p.platform).2 })

/-- Acts on the platform; a failure ends the load. -/
def require (fatal : Failure → LoadError) (action : σ → Except Failure α × σ) : Loading σ α := do
  match ← act action with
  | .ok a => return a
  | .error failure => throw (fatal failure)

/-- Passes the warnings on. -/
def report (r : Reported α) : Loading σ α :=
  modifyGet fun p => (r.value, { p with warnings := p.warnings ++ r.warnings })

/-- The bit of the modifier that locks the keypad, zero if the platform cannot tell it. -/
def numLockMask (p : Platform σ) : Loading σ UInt16 := do
  match ← act p.numLockMask with
  | .ok mask => return mask
  | .error _ => report ⟨0, [.numLockUnavailable]⟩

/-- The general settings of a session. -/
def general (g : Settings.General) : Session.General where
  border := g.border
  snap := g.snap
  resizeHints := g.resizeHints
  opacityUnfocused := UInt8.ofNat (Settings.clampOpacity g.opacityUnfocused).toNat
  focusMovePointer := g.focusMovePointer
  font := g.font

/-- The place of the first layout, which is current at first and which every tag has. -/
def firstLayout : Nat := 0

/-- The session of settings. -/
def resolve (p : Platform σ) (s : Settings) : Loading σ Session := do
  let font ← require (fun failure => .font s.general.font failure.reason)
    (p.openFont (.parse s.general.font))
  let colors ← s.colors.mapM fun spec =>
    require (fun failure => .color spec failure.reason) (p.allocColor spec)
  let layouts ← report (Session.Layout.ofEntries s.layouts.layout)
  unless layouts[firstLayout]?.any (·.isUsable) do throw .noDefaultLayout
  let rules ← report (Reported.map Session.Rule.ofSettings s.rules)
  let tags := Session.Tag.ofEntries firstLayout s.tags
  if tags.isEmpty then throw .noTags
  let numLockMask ← numLockMask p
  let keys ← report (Reported.map Session.KeyBinding.ofSettings s.keys.key)
  return {
    statusText := Session.initialText
    screen := p.screen
    physScreen := p.physScreen
    general := general s.general
    colors
    theme := .ofPalette font colors
    statusBar := .at (.ofText s.statusbar.position)
    layouts
    currentLayout := firstLayout
    tiling := ⟨s.layouts.mwfact, s.layouts.nmaster, s.layouts.ncol⟩
    rules
    tags
    keys
    modkey := Session.mainModifier s.keys.modkey
    numLockMask }

/-- The session of a text. -/
def ofText (p : Platform σ) (text : String) : Loading σ Session := do
  resolve p (← report (Settings.parse text))

/-- The session of the configuration file at `explicit`, or else of the one in the directory `home`;
`contents` gives the bytes of the files that can be read. -/
def load (p : Platform σ) (contents : String → Option ByteArray) (explicit home : Option String) :
    Loading σ Session := do
  match Settings.locate? explicit home with
  | none => throw .noHomeDirectory
  | some path => resolve p (← report (Settings.ofBytes (contents path)))

end Loading

end WmConfig
