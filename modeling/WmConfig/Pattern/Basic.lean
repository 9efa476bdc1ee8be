import WmConfig.Pattern.Search
import WmConfig.Pattern.Size
import WmConfig.Pattern.Syntax

/-! # Patterns

A pattern is a text that reads as a regular expression within the limits on nesting and size. It
matches a text if it matches some piece of it. -/

namespace WmConfig

/-- A pattern that can be searched for. -/
structure Pattern where
  /-- The expression searched for. -/
  regex : Regex
deriving DecidableEq

namespace Pattern

/-- The pattern that a text stands for. -/
def ofText? (text : String) : Option Pattern :=
  (Syntax.read? text.toList).bind fun n =>
    if n.height ≤ Syntax.maxHeight ∧ n.regex.fits then some ⟨n.regex⟩ else none

/-- Whether a piece of the text matches. -/
def isFoundIn (p : Pattern) (text : String) : Bool := p.regex.isFoundIn text.toList

end Pattern

end WmConfig
