import WmConfig.Pattern.Escape

/-! # Sets in brackets

A set in brackets lists characters, ranges and other sets, and may combine several lists by
intersection, difference or symmetric difference, from the left to the right.

Each reader also returns how deep the set is nested, since patterns have a limit on that: a bracket,
a list of two or more members, and a combination count as one level each. -/

namespace WmConfig.Pattern

/-- A set with the number of levels it is nested. -/
structure Nested where
  /-- The set. -/
  set : CharSet
  /-- The number of levels. -/
  height : Nat

namespace Bracket

/-! ### Named sets -/

/-- The ranges of the sets named between colons. -/
def namedSets : List (String × String) := [
  ("alnum", "30-39 41-5A 61-7A"),
  ("alpha", "41-5A 61-7A"),
  ("ascii", "0-7F"),
  ("blank", "9 20"),
  ("cntrl", "0-1F 7F"),
  ("digit", "30-39"),
  ("graph", "21-7E"),
  ("lower", "61-7A"),
  ("print", "20-7E"),
  ("punct", "21-2F 3A-40 5B-60 7B-7E"),
  ("space", "9-D 20"),
  ("upper", "41-5A"),
  ("word", "30-39 41-5A 5F 61-7A"),
  ("xdigit", "30-39 41-46 61-66")]

/-- Reads a named set after its opening bracket: the set, whether it is negated, and the rest. -/
def named? (cs : List Char) : Option ((CharSet × Bool) × List Char) :=
  let read (negated : Bool) (cs : List Char) : Option ((CharSet × Bool) × List Char) :=
    match cs.dropWhile (· != ':') with
    | ':' :: ']' :: rest =>
      (namedSets.lookup (String.ofList (cs.takeWhile (· != ':')))).map fun ranges =>
        ((.ofText ranges, negated), rest)
    | _ => none
  match cs with
  | ':' :: '^' :: cs => read true cs
  | ':' :: cs => read false cs
  | _ => none

/-! ### Lists of members -/

/-- A way to combine two lists. -/
inductive Operator where
  | intersection | difference | symmetricDifference
deriving DecidableEq

/-- Combines two sets. -/
def Operator.apply : Operator → CharSet → CharSet → CharSet
  | intersection => (· ∩ ·)
  | difference => (· \ ·)
  | symmetricDifference => CharSet.symmDiff

/-- What has been read of a set. -/
structure State where
  /-- The members of the current list. -/
  set : CharSet := .empty
  /-- How many members the current list has. -/
  count : Nat := 0
  /-- The levels of the deepest member. -/
  height : Nat := 0
  /-- The lists before, and how the current one is combined with them. -/
  before : Option (Operator × Nested) := none

namespace State

/-- Adds a member. -/
def add (st : State) (member : Nested) : State :=
  { st with
    set := st.set ∪ member.set, count := st.count + 1, height := max st.height member.height }

/-- Closes the current list. -/
def close (f : Flags) (st : State) : Nested :=
  let current : Nested := ⟨st.set, if st.count ≤ 1 then st.height else st.height + 1⟩
  match st.before with
  | none => current
  | some (op, before) =>
    ⟨op.apply (f.fold before.set) (f.fold current.set), max before.height current.height + 1⟩

/-- Starts another list. -/
def combine (f : Flags) (st : State) (op : Operator) : State :=
  { before := some (op, st.close f) }

end State

/-- A member of a list that is not a set in brackets. -/
def atom? (f : Flags) : List Char → Option (Atom × List Char)
  | [] => none
  | '\\' :: rest => Escape.read? f rest
  | c :: rest => some (.char c, rest)

/-- A character that the set may hold: without Unicode, one within ASCII. -/
def admit? (f : Flags) (c : Char) : Option Char := if f.unicode ∨ c.toNat < 128 then some c else none

/-- The character after a hyphen. In a comment, its first character that is not blank is taken. -/
def peek? (f : Flags) (cs : List Char) : Option Char :=
  if f.verbose then
    match cs.dropWhile isBlank with
    | '#' :: comment => (comment.dropWhile isBlank).head? <|> cs.head?
    | c :: _ => some c
    | [] => cs.head?
  else cs.head?

/-- A single character or a set. -/
def single? (f : Flags) : Atom → Option CharSet
  | .char c => (admit? f c).map .ofChar
  | .set s => some s
  | .look _ => none

/-- The characters between two. -/
def range? (f : Flags) : Atom → Atom → Option CharSet
  | .char low, .char high => do
    let low ← admit? f low
    let high ← admit? f high
    if low ≤ high then return .ofRange low.toNat high.toNat else none
  | _, _ => none

/-- A member of a list: a character, a range, or a set from an escape. A hyphen before the closing
bracket or before another hyphen makes no range. -/
def member? (f : Flags) (cs : List Char) : Option (CharSet × List Char) := do
  let (first, rest) ← atom? f cs
  let rest := f.skip rest
  match rest with
  | [] => none
  | '-' :: after =>
    if peek? f after = some ']' ∨ peek? f after = some '-' then return (← single? f first, rest)
    else
      let (c, after) ← f.next? after
      let (last, rest) ← atom? f (c :: after)
      return (← range? f first last, rest)
  | _ => return (← single? f first, rest)

/-- The members up to the closing bracket, in at most `limit` steps; `nested?` reads a set in
brackets after its opening one. -/
def members? (f : Flags) (nested? : List Char → Option (Nested × List Char)) :
    (limit : Nat) → State → List Char → Option (Nested × List Char)
  | 0, _, _ => none
  | limit + 1, st, cs =>
    match f.skip cs with
    | [] => none
    | '[' :: rest =>
      match named? rest with
      | some ((set, negated), rest) => do
        let set ← f.negate? negated (f.fold set)
        members? f nested? limit (st.add ⟨set, 0⟩) rest
      | none => do
        let (member, rest) ← nested? rest
        members? f nested? limit (st.add member) rest
    | ']' :: rest => some (st.close f, rest)
    | '&' :: '&' :: rest => members? f nested? limit (st.combine f .intersection) rest
    | '-' :: '-' :: rest => members? f nested? limit (st.combine f .difference) rest
    | '~' :: '~' :: rest => members? f nested? limit (st.combine f .symmetricDifference) rest
    | cs => do
      let (set, rest) ← member? f cs
      members? f nested? limit (st.add ⟨set, 0⟩) rest

/-- Adds the hyphens at the front of a list. -/
def leadingHyphens (f : Flags) : (limit : Nat) → State → List Char → State × List Char
  | limit + 1, st, '-' :: cs => leadingHyphens f limit (st.add ⟨.ofChar '-', 0⟩) (f.skip cs)
  | _, st, cs => (st, cs)

/-- Adds what may stand only at the front of a list: hyphens, or else a closing bracket. -/
def leading (f : Flags) (cs : List Char) : State × List Char :=
  match cs with
  | ']' :: rest => (State.add {} ⟨.ofChar ']', 0⟩, f.skip rest)
  | _ => leadingHyphens f cs.length {} cs

/-- The sign for every other character. -/
def negation (f : Flags) (cs : List Char) : Bool × List Char :=
  match f.skip cs with
  | '^' :: rest => (true, f.skip rest)
  | cs => (false, cs)

/-- Reads a set after its opening bracket; sets in brackets may be nested `levels` deep. -/
def read? (f : Flags) : (levels : Nat) → List Char → Option (Nested × List Char)
  | 0, _ => none
  | levels + 1, cs => do
    let (negated, cs) := negation f cs
    let (st, cs) := leading f cs
    let (inner, rest) ← members? f (read? f levels) (cs.length + 1) st cs
    let set ← f.negate? negated (f.fold inner.set)
    return (⟨set, inner.height + 1⟩, rest)

end Bracket

end WmConfig.Pattern
