import WmConfig.Pattern.Bracket

/-! # The syntax of patterns

A pattern is read from the left to the right. Of each group that is open, the pieces read so far are
kept, with the alternatives before them. Pieces carry how deep they are nested, since patterns have a
limit on that: a group, a repetition, two or more pieces in a row and two or more alternatives count
as one level each.

* `read?`: the expression that a pattern stands for, with the levels it is nested. -/

namespace WmConfig.Pattern.Syntax

/-- How deep a pattern may be nested. -/
def maxHeight : Nat := 250

/-- An expression with the number of levels it is nested. -/
structure Node where
  /-- The expression. -/
  regex : Regex
  /-- The number of levels. -/
  height : Nat

/-- A piece of a row. -/
inductive Piece where
  /-- An expression. -/
  | node (n : Node)
  /-- A directive, which matches nothing and cannot be repeated. -/
  | directive

namespace Piece

/-- The expression of a piece, if it has one. -/
def regex? : Piece → Option Regex
  | node n => some n.regex
  | directive => none

/-- The levels of a piece. -/
def height : Piece → Nat
  | node n => n.height
  | directive => 0

end Piece

/-- The level above some others: none of its own if there is only one. -/
def heightOver (heights : List Nat) : Nat :=
  let deepest := heights.foldl max 0
  if heights.length ≤ 1 then deepest else deepest + 1

/-- Pieces in a row. -/
def row (pieces : List Piece) : Node :=
  ⟨Regex.concats (pieces.filterMap Piece.regex?), heightOver (pieces.map Piece.height)⟩

/-- A group that is open. -/
structure Group where
  /-- The flags in force. -/
  flags : Flags := {}
  /-- The pieces of the current row, the last one first. -/
  pieces : List Piece := []
  /-- The alternatives before, the last one first. -/
  before : List Node := []

namespace Group

/-- Adds a piece. -/
def add (g : Group) (p : Piece) : Group := { g with pieces := p :: g.pieces }

/-- Starts another alternative. -/
def alternate (g : Group) : Group :=
  { g with pieces := [], before := row g.pieces.reverse :: g.before }

/-- The expression of a group. -/
def close (g : Group) : Node :=
  match (row g.pieces.reverse :: g.before).reverse with
  | [] => ⟨.empty, 0⟩
  | first :: rest =>
    ⟨Regex.eithers first.regex (rest.map Node.regex),
      heightOver (first.height :: rest.map Node.height)⟩

/-- Repeats the last piece. -/
def repeat? (g : Group) (min : Nat) (max : Option Nat) : Option Group :=
  match g.pieces with
  | .node n :: pieces =>
    some { g with pieces := .node ⟨.times n.regex min max, n.height + 1⟩ :: pieces }
  | _ => none

end Group

/-- What has been read of a pattern. -/
structure State where
  /-- The innermost group. -/
  current : Group := {}
  /-- The groups around it, the innermost one first, each with whether the group inside it is kept
  track of. -/
  outer : List (Group × Bool) := []
  /-- The names of groups. -/
  names : List (List Char) := []

namespace State

/-- The flags in force. -/
def flags (st : State) : Flags := st.current.flags

/-- Adds an expression. -/
def add (st : State) (r : Regex) (height : Nat) : State :=
  { st with current := st.current.add (.node ⟨r, height⟩) }

/-- Opens a group. -/
def openGroup (st : State) (captures : Bool) (flags : Flags) : State :=
  { st with current := { flags }, outer := (st.current, captures) :: st.outer }

/-- Closes the innermost group. -/
def closeGroup? (st : State) : Option State :=
  match st.outer with
  | [] => none
  | (outer, captures) :: rest =>
    let n := st.current.close
    let r := if captures then .capture n.regex else n.regex
    some { st with current := outer.add (.node ⟨r, n.height + 1⟩), outer := rest }

/-- Repeats the last piece. -/
def repeat? (st : State) (min : Nat) (max : Option Nat) : Option State :=
  (st.current.repeat? min max).map fun current => { st with current }

/-- The expression read, if every group is closed. -/
def finish? (st : State) : Option Node := if st.outer.isEmpty then some st.current.close else none

end State

/-! ### Repetition -/

/-- Skips the sign for a repetition that prefers few. -/
def skipLazy (cs : List Char) : List Char :=
  match cs with
  | '?' :: rest => rest
  | _ => cs

/-- A number with blanks around it. -/
def number? (f : Flags) (cs : List Char) : Option (Nat × List Char) := do
  let cs := cs.dropWhile isBlank
  let (digits, rest) := f.run Char.isDigit cs.length cs
  let n ← (Numeral.value? 10 digits).filter (· < UInt32.size)
  return (n, rest.dropWhile isBlank)

/-- The closing brace of a count, and the sign after it. -/
def endCount? (f : Flags) (min : Nat) (max : Option Nat) :
    List Char → Option ((Nat × Option Nat) × List Char)
  | '\x7d' :: rest => if max.all (min ≤ ·) then some ((min, max), skipLazy (f.skip rest)) else none
  | _ => none

/-- A count after its opening brace: one number, a least one, or a least and a greatest one. -/
def count? (f : Flags) (cs : List Char) : Option ((Nat × Option Nat) × List Char) := do
  let (min, rest) ← number? f (f.skip cs)
  match rest with
  | ',' :: rest =>
    match f.skip rest with
    | '\x7d' :: rest => endCount? f min none ('\x7d' :: rest)
    | rest =>
      let (max, rest) ← number? f rest
      endCount? f min (some max) rest
  | _ => endCount? f min (some min) rest

/-! ### Groups -/

/-- Whether a character may stand in the name of a group. -/
def isNameChar (first : Bool) (c : Char) : Bool :=
  if first then c == '_' || Unicode.alphabetic.contains c
  else c == '_' || c == '.' || c == '[' || c == ']' || Unicode.alphanumeric.contains c

/-- The name of a group up to the closing angle bracket. -/
def groupName? (cs : List Char) : Option (List Char × List Char) :=
  match cs.takeWhile (· != '>'), cs.dropWhile (· != '>') with
  | c :: name, _ :: rest =>
    if isNameChar true c && name.all (isNameChar false) then some (c :: name, rest) else none
  | _, _ => none

/-- A group with a name that no other group has. -/
def namedGroup? (st : State) (cs : List Char) : Option (State × List Char) := do
  let (name, rest) ← groupName? cs
  if name ∈ st.names then none
  else return ({ st with names := name :: st.names }.openGroup true st.flags, rest)

/-- A group with flags of its own, or a directive. A directive without flags is refused. -/
def flagGroup? (st : State) (cs : List Char) : Option (State × List Char) := do
  let (switches, sign, rest) ← Flags.read? [] false false cs
  let flags := st.flags.apply switches
  if sign = ':' then return (st.openGroup false flags, rest)
  else if switches.isEmpty then none
  else return ({ st with current := { st.current.add .directive with flags } }, rest)

/-- What follows an opening bracket. There is no looking ahead or behind. -/
def group? (st : State) (cs : List Char) : Option (State × List Char) :=
  match st.flags.skip cs with
  | '?' :: '=' :: _ => none
  | '?' :: '!' :: _ => none
  | '?' :: '<' :: '=' :: _ => none
  | '?' :: '<' :: '!' :: _ => none
  | '?' :: 'P' :: '<' :: rest => namedGroup? st rest
  | '?' :: '<' :: rest => namedGroup? st rest
  | '?' :: rest => flagGroup? st rest
  | rest => some (st.openGroup true st.flags, rest)

/-! ### Patterns -/

/-- Adds what an escape stands for. -/
def addAtom (st : State) : Atom → State
  | .char c => st.add (.set (st.flags.character c)) 0
  | .set s => st.add (.set s) 0
  | .look l => st.add (.look l) 0

/-- Reads one sign, the first of which is `c`. -/
def step? (st : State) (c : Char) (rest : List Char) : Option (State × List Char) :=
  match c with
  | '(' => group? st rest
  | ')' => st.closeGroup?.map (·, rest)
  | '|' => some ({ st with current := st.current.alternate }, rest)
  | '[' => (Bracket.read? st.flags maxHeight rest).map fun (n, rest) =>
      (st.add (.set n.set) n.height, rest)
  | '?' => (st.repeat? 0 (some 1)).map (·, skipLazy rest)
  | '*' => (st.repeat? 0 none).map (·, skipLazy rest)
  | '+' => (st.repeat? 1 none).map (·, skipLazy rest)
  | '\x7b' => do
    let ((min, max), rest) ← count? st.flags rest
    return (← st.repeat? min max, rest)
  | '\\' => (Escape.read? st.flags rest).map fun (a, rest) => (addAtom st a, rest)
  | '.' => st.flags.dot?.map fun s => (st.add (.set s) 0, rest)
  | '^' => some (st.add (.look st.flags.startLook) 0, rest)
  | '$' => some (st.add (.look st.flags.endLook) 0, rest)
  | c => some (addAtom st (.char c), rest)

/-- Reads the rest of a pattern in at most `limit` steps. -/
def readWithin? : (limit : Nat) → State → List Char → Option Node
  | 0, _, _ => none
  | limit + 1, st, cs =>
    match st.flags.skip cs with
    | [] => st.finish?
    | c :: rest => do
      let (st, rest) ← step? st c rest
      readWithin? limit st rest

/-- Reads a pattern. Each step takes at least a character. -/
def read? (cs : List Char) : Option Node := readWithin? (cs.length + 1) {} cs

end WmConfig.Pattern.Syntax
