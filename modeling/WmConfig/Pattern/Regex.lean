import WmConfig.Unicode.Property

/-! # Regular expressions

An expression describes pieces of a text together with where they may stand: besides characters it
may ask about the two sides of a place in the text, such as whether a word ends there. -/

namespace WmConfig

/-- A place in a text, given by the characters on its two sides. -/
structure Gap where
  /-- The character before, unless the text starts here. -/
  before : Option Char
  /-- The character after, unless the text ends here. -/
  after : Option Char
deriving DecidableEq

namespace Gap

/-- The places of a text, `before` being the character in front of it. -/
def all (before : Option Char) : List Char → List Gap
  | [] => [⟨before, none⟩]
  | c :: cs => ⟨before, some c⟩ :: all (some c) cs

end Gap

/-- How a place lies to words. -/
inductive WordEdge where
  /-- A word starts or ends here. -/
  | boundary
  /-- No word starts or ends here. -/
  | interior
  /-- A word starts here. -/
  | start
  /-- A word ends here. -/
  | finish
  /-- No character of a word stands before. -/
  | startHalf
  /-- No character of a word stands after. -/
  | finishHalf
deriving DecidableEq

/-- What an expression may ask about a place. -/
inductive Look where
  /-- The text starts here. -/
  | textStart
  /-- The text ends here. -/
  | textEnd
  /-- A line starts here; `crlf` tells whether a carriage return ends lines too. -/
  | lineStart (crlf : Bool)
  /-- A line ends here; `crlf` tells whether a carriage return ends lines too. -/
  | lineEnd (crlf : Bool)
  /-- How the place lies to words; `unicode` tells whether words reach beyond ASCII. -/
  | word (edge : WordEdge) (unicode : Bool)
deriving DecidableEq

namespace Look

/-- The digits of ASCII. -/
def asciiDigits : CharSet := .ofText "30-39"

/-- The white space of ASCII. -/
def asciiSpaces : CharSet := .ofText "9-D 20"

/-- The characters of words within ASCII. -/
def asciiWordChars : CharSet := .ofText "30-39 41-5A 5F 61-7A"

/-- Whether a side of a place belongs to a word. -/
def inWord (unicode : Bool) (side : Option Char) : Bool :=
  side.any (if unicode then Unicode.wordChars else asciiWordChars).contains

/-- Whether a place lies to words as asked, given which of its sides belong to one. -/
def edgeHolds (before after : Bool) : WordEdge → Bool
  | .boundary => before != after
  | .interior => before == after
  | .start => !before && after
  | .finish => before && !after
  | .startHalf => !before
  | .finishHalf => !after

/-- Whether a place is as asked. A carriage return and the line feed after it end a line together. -/
def holds (gap : Gap) : Look → Bool
  | textStart => gap.before.isNone
  | textEnd => gap.after.isNone
  | lineStart crlf =>
    gap.before.isNone || gap.before == some '\n' ||
      (crlf && gap.before == some '\r' && gap.after != some '\n')
  | lineEnd crlf =>
    gap.after.isNone || (gap.after == some '\n' && !(crlf && gap.before == some '\r')) ||
      (crlf && gap.after == some '\r')
  | word edge unicode => edgeHolds (inWord unicode gap.before) (inWord unicode gap.after) edge

end Look

/-- A regular expression. -/
inductive Regex where
  /-- The empty piece. -/
  | empty
  /-- The empty piece at certain places. -/
  | look (l : Look)
  /-- One character of a set. -/
  | set (s : CharSet)
  /-- One piece after the other. -/
  | concat (r s : Regex)
  /-- Either piece. -/
  | either (r s : Regex)
  /-- At least `min` pieces in a row, and at most `max` if that is given. -/
  | times (r : Regex) (min : Nat) (max : Option Nat)
  /-- A piece that is kept track of. -/
  | capture (r : Regex)
deriving DecidableEq

namespace Regex

/-- The pieces one after the other. -/
def concats : List Regex → Regex
  | [] => empty
  | [r] => r
  | r :: rs => concat r (concats rs)

/-- Any of two or more pieces, the first one given apart. -/
def eithers (r : Regex) : List Regex → Regex
  | [] => r
  | s :: rs => either r (eithers s rs)

end Regex

end WmConfig
