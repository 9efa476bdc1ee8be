import WmConfig.Number.Numeral
import WmConfig.Pattern.Flags

/-! # Escapes of a pattern

What a backslash and the characters after it stand for: a character, a set of characters, or a
question about the place. -/

namespace WmConfig.Pattern

/-- What an escape stands for. -/
inductive Atom where
  /-- A character. -/
  | char (c : Char)
  /-- A set of characters. -/
  | set (s : CharSet)
  /-- A question about the place. -/
  | look (l : Look)

namespace Escape

/-- The character with the given value in hexadecimal. -/
def scalar? (digits : List Char) : Option Char :=
  ((Numeral.value? 16 digits).filter Nat.isValidChar).map Char.ofNat

/-- Whether the character is a hexadecimal digit. -/
def isHex (c : Char) : Bool := (Numeral.digit? c).isSome

/-- A character by its value: between braces, or of exactly `width` digits. Two digits stand for a
byte, and without Unicode for one within ASCII. -/
def numbered? (f : Flags) (width : Nat) (cs : List Char) : Option (Char × List Char) := do
  let (c, rest) ← f.next? cs
  if c = '\x7b' then
    let (digits, rest) := f.run isHex rest.length (f.skip rest)
    match rest with
    | '\x7d' :: rest => return (← scalar? digits, f.skip rest)
    | _ => none
  else
    let (digits, rest) := f.run isHex width (c :: rest)
    if digits.length = width then
      let c ← scalar? digits
      if width = 2 ∧ !f.unicode ∧ 0x7f < c.toNat then none else return (c, rest)
    else none

/-- A property by its name alone, or by its name and a value. -/
def property? (name : List Char) : Option CharSet :=
  match cutUnequal? name with
  | some (property, value) => Unicode.valued? property value
  | none =>
    match cutFirst? ':' name with
    | some (property, value) => Unicode.valued? property value
    | none =>
      match cutFirst? '=' name with
      | some (property, value) => Unicode.valued? property value
      | none => Unicode.named? name
where
  /-- Cuts at the first sign of inequality. -/
  cutUnequal? : List Char → Option (List Char × List Char)
    | '!' :: '=' :: rest => some ([], rest)
    | c :: rest => (cutUnequal? rest).map fun (before, after) => (c :: before, after)
    | [] => none

/-- A property between braces or of one letter. -/
def propertySet? (f : Flags) (negated : Bool) (cs : List Char) : Option (CharSet × List Char) := do
  if !f.unicode then none
  else
    let (c, rest) ← f.next? cs
    if c = '\x7b' then
      let (name, rest) := f.run (· != '\x7d') rest.length (f.skip rest)
      match rest with
      | _ :: rest => return (← f.negate? negated (f.fold (← property? name)), rest)
      | [] => none
    else if c = '\\' then none
    else return (← f.negate? negated (f.fold (← property? [c])), f.skip rest)

/-- The set that a letter stands for: digits, white space or characters of words. -/
def letterSet? (f : Flags) (letter : Char) : Option CharSet :=
  match letter with
  | 'd' => some (if f.unicode then Unicode.digits else Look.asciiDigits)
  | 's' => some (if f.unicode then Unicode.spaces else Look.asciiSpaces)
  | 'w' => some (if f.unicode then Unicode.wordChars else Look.asciiWordChars)
  | _ => none

/-- Whether a character may stand in the name of a place of a word. -/
def isEdgeChar (c : Char) : Bool := c.isAlpha || c == '-'

/-- The place of a word with the given name. -/
def edge? (name : List Char) : Option WordEdge :=
  if name = "start".toList then some .start
  else if name = "end".toList then some .finish
  else if name = "start-half".toList then some .startHalf
  else if name = "end-half".toList then some .finishHalf
  else none

/-- A place of a word, named between braces. Braces that cannot hold such a name are left to what
follows. -/
def boundary? (f : Flags) (cs : List Char) : Option (WordEdge × List Char) :=
  match cs with
  | '\x7b' :: rest => do
    let (c, after) ← f.next? rest
    if isEdgeChar c then
      match f.run isEdgeChar (after.length + 1) (c :: after) with
      | (name, '\x7d' :: rest) => return (← edge? name, rest)
      | _ => none
    else return (.boundary, cs)
  | _ => some (.boundary, cs)

/-- Whether a backslash makes the character stand for itself: any of ASCII but letters, digits and
the signs for places of words. -/
def isLiteral (c : Char) : Bool := c.toNat < 128 && !c.isAlphanum && c != '<' && c != '>'

/-- The character that a letter stands for. -/
def control? : Char → Option Char
  | 'a' => some '\x07'
  | 'f' => some '\x0c'
  | 't' => some '\t'
  | 'n' => some '\n'
  | 'r' => some '\r'
  | 'v' => some '\x0b'
  | _ => none

/-- Reads what follows a backslash. -/
def read? (f : Flags) : List Char → Option (Atom × List Char)
  | [] => none
  | 'x' :: rest => (numbered? f 2 rest).map fun (c, rest) => (.char c, rest)
  | 'u' :: rest => (numbered? f 4 rest).map fun (c, rest) => (.char c, rest)
  | 'U' :: rest => (numbered? f 8 rest).map fun (c, rest) => (.char c, rest)
  | 'p' :: rest => (propertySet? f false rest).map fun (s, rest) => (.set s, rest)
  | 'P' :: rest => (propertySet? f true rest).map fun (s, rest) => (.set s, rest)
  | 'A' :: rest => some (.look .textStart, rest)
  | 'z' :: rest => some (.look .textEnd, rest)
  | 'b' :: rest => (boundary? f rest).map fun (edge, rest) => (.look (.word edge f.unicode), rest)
  | 'B' :: rest => some (.look (.word .interior f.unicode), rest)
  | '<' :: rest => some (.look (.word .start f.unicode), rest)
  | '>' :: rest => some (.look (.word .finish f.unicode), rest)
  | c :: rest =>
    if isLiteral c then some (.char c, rest)
    else
      match letterSet? f c.toLower with
      | some s => (f.negate? c.isUpper s).map fun s => (.set s, rest)
      | none => (control? c).map fun c => (.char c, rest)

end Escape

end WmConfig.Pattern
