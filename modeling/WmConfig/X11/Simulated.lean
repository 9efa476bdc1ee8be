import WmConfig.X11.Protocol

/-! # Simulated servers

A server that answers from a description of itself and keeps a list of the requests. -/

namespace WmConfig.X11

/-- Whether the screens of a simulated server are joined. -/
inductive Xinerama where
  /-- The server lacks the extension. -/
  | absent
  /-- The server answers with an error. -/
  | failing
  /-- The server answers with a number; any but zero says yes. -/
  | state (n : UInt32)
deriving DecidableEq

/-- The description of a server. -/
structure Simulation where
  /-- What it tells at first. -/
  setup : Setup
  /-- Whether its screens are joined. -/
  xinerama : Xinerama := .absent
  /-- Whether it refuses colours given by their channels. -/
  refusesColors : Bool := false
  /-- The bits of each channel that it can show. -/
  channelMask : UInt16 := 0xffff
  /-- The named colours: what the name stands for, and what the screen shows. -/
  named : List (String × Rgb × Rgb) := []
  /-- The keyboard, unless asking for it fails. -/
  keyboard : Option KeyboardMapping := some ⟨0, []⟩
  /-- The keycodes of the modifiers, unless asking for them fails. -/
  modifiers : Option (List UInt8) := some []

namespace Simulation

/-- The state of a simulated server. -/
structure State where
  /-- How many colours have been allocated. -/
  allocated : Nat := 0
  /-- The requests received, in order. -/
  requests : List Request := []
deriving DecidableEq

/-- The colour that the screen shows for another. -/
def shown (s : Simulation) (c : Rgb) : Rgb :=
  ⟨c.red &&& s.channelMask, c.green &&& s.channelMask, c.blue &&& s.channelMask⟩

/-- Gives out the next pixel. -/
def nextPixel (state : State) : UInt32 × State :=
  (UInt32.ofNat (state.allocated + 1), { state with allocated := state.allocated + 1 })

/-- Answers a request that has been noted. -/
def reply? (s : Simulation) (r : Request) (state : State) : Option r.Reply × State :=
  match r with
  | .queryExtension _ => (some (decide (s.xinerama ≠ .absent) : Bool), state)
  | .xineramaIsActive =>
    match s.xinerama with
    | .state n => (some (n : UInt32), state)
    | _ => (none, state)
  | .allocColor _ rgb =>
    if s.refusesColors then (none, state)
    else
      let (pixel, state) := nextPixel state
      (some (⟨pixel, s.shown rgb⟩ : AllocatedColor), state)
  | .allocNamedColor _ name =>
    match s.named.lookup name with
    | some (exact, visual) =>
      let (pixel, state) := nextPixel state
      (some (⟨pixel, exact, visual⟩ : NamedColor), state)
    | none => (none, state)
  | .getKeyboardMapping _ _ => (s.keyboard, state)
  | .getModifierMapping => (s.modifiers, state)

/-- The server. -/
def server (s : Simulation) : Server State where
  setup := s.setup
  reply? r state := s.reply? r { state with requests := state.requests ++ [r] }

end Simulation

end WmConfig.X11
