import WmConfig.Pattern.Regex
import WmConfig.Unicode.CaseFolding

/-! # Flags of a pattern

The flags say how the signs of a pattern are to be read. A group may set some of them for itself, and
a directive such as `(?i)` sets them for the rest of the group that it stands in. -/

namespace WmConfig.Pattern

/-- The flags in force. -/
structure Flags where
  /-- Characters that differ only in case are the same. -/
  caseless : Bool := false
  /-- The anchors stand for the ends of lines. -/
  multiLine : Bool := false
  /-- The dot stands for line ends too. -/
  dotAll : Bool := false
  /-- A carriage return ends lines too. -/
  crlf : Bool := false
  /-- Sets reach beyond ASCII. -/
  unicode : Bool := true
  /-- Blanks and comments are skipped. -/
  verbose : Bool := false
deriving DecidableEq

/-- A flag. -/
inductive Flag where
  | caseless | multiLine | dotAll | swapGreed | unicode | crlf | verbose
deriving DecidableEq

/-- The flag that a letter stands for. -/
def Flag.ofLetter? : Char → Option Flag
  | 'i' => some caseless
  | 'm' => some multiLine
  | 's' => some dotAll
  | 'U' => some swapGreed
  | 'u' => some unicode
  | 'R' => some crlf
  | 'x' => some verbose
  | _ => none

namespace Flags

/-- Switches a flag. Which of several matches a repetition prefers does not change whether there is
one, so swapping that has no effect. -/
def switch (f : Flags) (flag : Flag) (on : Bool) : Flags :=
  match flag with
  | .caseless => { f with caseless := on }
  | .multiLine => { f with multiLine := on }
  | .dotAll => { f with dotAll := on }
  | .swapGreed => f
  | .unicode => { f with unicode := on }
  | .crlf => { f with crlf := on }
  | .verbose => { f with verbose := on }

/-- Reads flags up to the colon or the closing bracket that ends them. Each flag may be named once,
and one minus sign may stand before those to be switched off. Returns the switches, the sign at the
end, and the rest. -/
def read? (seen : List Flag) (negated dangling : Bool) :
    List Char → Option (List (Flag × Bool) × Char × List Char)
  | [] => none
  | c :: rest =>
    if c = ':' ∨ c = ')' then if dangling then none else some ([], c, rest)
    else if c = '-' then if negated then none else read? seen true true rest
    else do
      let flag ← Flag.ofLetter? c
      if flag ∈ seen then none
      else
        let (switches, sign, rest) ← read? (flag :: seen) negated false rest
        return ((flag, !negated) :: switches, sign, rest)

/-- Applies switches in order. -/
def apply (f : Flags) (switches : List (Flag × Bool)) : Flags :=
  switches.foldl (fun f (flag, on) => f.switch flag on) f

/-! ### Sets under flags -/

/-- The characters that differ only in case from a member of the set, within ASCII. -/
def asciiClosure (s : CharSet) : CharSet :=
  let letters := (List.range 26).filter fun i =>
    s.contains (Char.ofNat (0x41 + i)) || s.contains (Char.ofNat (0x61 + i))
  s ∪ .unions (letters.flatMap fun i => [.ofRange (0x41 + i) (0x41 + i), .ofRange (0x61 + i) (0x61 + i)])

/-- Adds the characters that are the same as a member of the set. -/
def fold (f : Flags) (s : CharSet) : CharSet :=
  if f.caseless then if f.unicode then Unicode.closure s else asciiClosure s else s

/-- Every other character, if asked for. Within ASCII there is no such set. -/
def negate? (f : Flags) (negated : Bool) (s : CharSet) : Option CharSet :=
  if negated then if f.unicode then some s.complement else none else some s

/-- The set of a character. -/
def character (f : Flags) (c : Char) : CharSet := f.fold (.ofChar c)

/-- What the dot stands for. It reaches beyond ASCII. -/
def dot? (f : Flags) : Option CharSet :=
  if f.unicode then
    some (if f.dotAll then CharSet.empty.complement
      else if f.crlf then (CharSet.ofChar '\n' ∪ CharSet.ofChar '\r').complement
      else (CharSet.ofChar '\n').complement)
  else none

/-- What the sign for the start asks. -/
def startLook (f : Flags) : Look := if f.multiLine then .lineStart f.crlf else .textStart

/-- What the sign for the end asks. -/
def endLook (f : Flags) : Look := if f.multiLine then .lineEnd f.crlf else .textEnd

end Flags

/-! ### Blanks and comments -/

/-- Skips blanks, and comments from a number sign to the end of the line. -/
def skipComments (inComment : Bool) : List Char → List Char
  | [] => []
  | c :: cs =>
    if inComment then skipComments (c != '\n') cs
    else if isBlank c then skipComments false cs
    else if c = '#' then skipComments true cs
    else c :: cs

/-- Skips what does not count. -/
def Flags.skip (f : Flags) (cs : List Char) : List Char :=
  if f.verbose then skipComments false cs else cs

/-- The longest run of accepted characters, at most `limit` of them, and the rest. What does not
count is skipped after each. -/
def Flags.run (f : Flags) (accept : Char → Bool) : (limit : Nat) → List Char →
    List Char × List Char
  | limit + 1, c :: cs =>
    if accept c then
      let (taken, rest) := f.run accept limit (f.skip cs)
      (c :: taken, rest)
    else ([], c :: cs)
  | _, cs => ([], cs)

/-- The next character that counts, unless the text ends. -/
def Flags.next? (f : Flags) (cs : List Char) : Option (Char × List Char) :=
  match f.skip cs with
  | [] => none
  | c :: rest => some (c, rest)

end WmConfig.Pattern
