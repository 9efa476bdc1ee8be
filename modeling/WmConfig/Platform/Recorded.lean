import WmConfig.Platform.Basic

/-! # Recorded platforms

A recorded platform acts like another one and keeps a list of the actions it was asked for. -/

namespace WmConfig

/-- An action asked of a platform. -/
inductive Call where
  /-- To open a font. -/
  | openFont (descriptor : FontDescriptor)
  /-- To allocate a colour. -/
  | allocColor (spec : String)
  /-- To tell the modifier that locks the keypad. -/
  | numLockMask
deriving DecidableEq

/-- The state of another platform, and the calls made so far in order. -/
structure Recording (σ : Type) where
  /-- The state. -/
  state : σ
  /-- The calls. -/
  calls : List Call := []

namespace Recording

variable {σ α : Type}

/-- Acts and adds the call to the list. -/
def act (call : Call) (action : σ → α × σ) (r : Recording σ) : α × Recording σ :=
  ((action r.state).1, ⟨(action r.state).2, r.calls ++ [call]⟩)

end Recording

/-- The platform with its calls recorded. -/
def Platform.recorded {σ : Type} (p : Platform σ) : Platform (Recording σ) where
  screen := p.screen
  physScreen := p.physScreen
  openFont d := Recording.act (.openFont d) (p.openFont d)
  allocColor spec := Recording.act (.allocColor spec) (p.allocColor spec)
  numLockMask := Recording.act .numLockMask p.numLockMask

end WmConfig
