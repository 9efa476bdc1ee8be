import WmConfig.Color
import WmConfig.Font.Descriptor

/-! # Platforms

A platform is what a session is set up on: it opens fonts, allocates colours and knows which
modifier locks the keypad. Its actions may fail, and each may depend on the ones before. -/

namespace WmConfig

/-- Why an action failed: what was tried and what stood in its way, from the outermost attempt to
the innermost cause. -/
structure Failure where
  /-- The texts. -/
  contexts : List String
deriving DecidableEq

namespace Failure

/-- A failure without a further cause. -/
def because (context : String) : Failure := ⟨[context]⟩

/-- The texts in one line. -/
def reason (f : Failure) : String := ": ".intercalate f.contexts

end Failure

/-- A platform with states of type `σ`. -/
structure Platform (σ : Type) where
  /-- The screen that the session is for. -/
  screen : Nat
  /-- The screen that fonts and colours belong to. -/
  physScreen : Nat
  /-- Opens a font. -/
  openFont : FontDescriptor → σ → Except Failure LoadedFont × σ
  /-- Allocates a colour given by its text. -/
  allocColor : String → σ → Except Failure AllocatedColor × σ
  /-- The bit of the modifier that locks the keypad, zero if there is none. -/
  numLockMask : σ → Except Failure UInt16 × σ

end WmConfig
