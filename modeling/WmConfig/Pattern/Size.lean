import WmConfig.Pattern.Regex

/-! # The size of a search program

A pattern is refused if the program that would search for it takes too much memory. The program has
a state for each byte to read and for each place where it forks; a set of characters beyond ASCII is
read byte by byte in its UTF-8 form. -/

namespace WmConfig

/-! ### Sets in UTF-8 -/

namespace CharSet

/-- How many characters share all but the last `n` bytes of their UTF-8 form. -/
def blockSize (n : Nat) : Nat := Nat.pow 64 n

/-- Cuts the values `low` to `high` into runs of UTF-8 forms: a run has one range for each byte and
holds every combination. Here `n` bytes follow the first one, whose bits are counted as a number. -/
def runs : (n low high : Nat) → List (List (Nat × Nat))
  | 0, low, high => [[(low, high)]]
  | n + 1, low, high =>
    let size := blockSize (n + 1)
    let inner (block first last : Nat) : List (List (Nat × Nat)) :=
      (runs n first last).map ((block, block) :: ·)
    let whole (first last : Nat) : List (List (Nat × Nat)) :=
      if first < last then [(first, last - 1) :: List.replicate (n + 1) (0, 63)] else []
    let headStarts := low % size = 0
    let tailEnds := high % size = size - 1
    if low / size = high / size ∧ ¬(headStarts ∧ tailEnds) then
      inner (low / size) (low % size) (high % size)
    else
      (if headStarts then [] else inner (low / size) (low % size) (size - 1)) ++
      whole (if headStarts then low / size else low / size + 1)
        (if tailEnds then high / size + 1 else high / size) ++
      (if tailEnds then [] else inner (high / size) 0 (high % size))

/-- The numbers of bytes after the first one, with the values that take so many. -/
def planes : List (Nat × Nat × Nat) :=
  [(0, 0, 0x7f), (1, 0x80, 0x7ff), (2, 0x800, 0xd7ff), (2, 0xe000, 0xffff), (3, 0x10000, 0x10ffff)]

/-- The runs of a range of values; the first byte is told apart by the number of bytes after it. -/
def runsOfRange (low next : Nat) : List (List (Nat × Nat)) :=
  planes.flatMap fun (n, least, greatest) =>
    let first := max low least
    let last := min (next - 1) greatest
    if low < next ∧ first ≤ last then
      (runs n first last).map fun
        | (a, b) :: rest => (a + 256 * n, b + 256 * n) :: rest
        | [] => []
    else []

/-- How many members two lists have in common at the front. -/
def commonLength : List (Nat × Nat) → List (Nat × Nat) → Nat
  | a :: as, b :: bs => if a = b then commonLength as bs + 1 else 0
  | _, _ => 0

/-- How many states read the runs; neighbours share the states of their common front. -/
def stateCount : List (List (Nat × Nat)) → Nat
  | [] => 0
  | [run] => run.length
  | run :: next :: rest => run.length - commonLength run next + stateCount (next :: rest)

end CharSet

namespace Regex

/-! ### Lengths -/

/-- Whether the empty piece may match. -/
def mayBeEmpty : Regex → Bool
  | empty => true
  | look _ => true
  | set _ => false
  | concat r s => r.mayBeEmpty && s.mayBeEmpty
  | either r s => r.mayBeEmpty || s.mayBeEmpty
  | times r min _ => min == 0 || r.mayBeEmpty
  | capture r => r.mayBeEmpty

/-- Whether nothing but the empty piece may match. -/
def mustBeEmpty : Regex → Bool
  | empty => true
  | look _ => true
  | set _ => false
  | concat r s => r.mustBeEmpty && s.mustBeEmpty
  | either r s => r.mustBeEmpty && s.mustBeEmpty
  | times r _ max => max == some 0 || r.mustBeEmpty
  | capture r => r.mustBeEmpty

/-! ### Memory -/

/-- The memory of a state in bytes. -/
def stateSize : Nat := 32

/-- The memory of a fork with `n` ways. -/
def forkSize (n : Nat) : Nat := stateSize + 4 * n

/-- The memory for reading a character of a set. -/
def setSize (s : CharSet) : Nat :=
  match s.single? with
  | some c => stateSize * c.utf8Size
  | none =>
    let ranges := s.ranges
    if ranges.all fun (_, next) => next ≤ 0x80 then
      if ranges.isEmpty then stateSize else 2 * stateSize + 8 * ranges.length
    else
      let runs := ranges.flatMap fun (low, next) => CharSet.runsOfRange low next
      forkSize runs.length + stateSize * (1 + CharSet.stateCount runs)

/-- The memory for pieces in a row, given that for one of them. -/
def timesSize (piece : Nat) (mayBeEmpty : Bool) (min : Nat) : Option Nat → Nat
  | some max =>
    if max = 0 then stateSize
    else if min = 0 ∧ max = 1 then piece + forkSize 2 + stateSize
    else if min = max then min * piece
    else max * piece + (max - min) * forkSize 2 + stateSize
  | none =>
    if min = 0 then
      if mayBeEmpty then piece + 2 * forkSize 2 + stateSize else piece + forkSize 2
    else min * piece + forkSize 2

/-- The memory for alternatives. -/
structure Branches where
  /-- The memory of the branches. -/
  size : Nat
  /-- How many there are. -/
  count : Nat
  /-- The characters, if each branch is a set of characters. -/
  set? : Option CharSet

/-- The memory of a fork into the branches; branches that are sets of characters become one set. -/
def Branches.total (b : Branches) : Nat :=
  if b.count = 1 then b.size
  else
    match b.set? with
    | some s => setSize s
    | none => b.size + forkSize b.count + stateSize

/-- The memory of the program, taken apart into the alternatives at its top. A piece that is kept
track of takes two states more if `captures`. -/
def branches (captures : Bool) : Regex → Branches
  | empty => ⟨stateSize, 1, none⟩
  | look _ => ⟨stateSize, 1, none⟩
  | set s => ⟨setSize s, 1, some s⟩
  | concat r s =>
    let size (r : Regex) (b : Branches) : Nat := if r = empty then 0 else b.total
    ⟨size r (r.branches captures) + size s (s.branches captures), 1, none⟩
  | either r s =>
    let a := r.branches captures
    let b := s.branches captures
    ⟨a.size + b.size, a.count + b.count, do return (← a.set?) ∪ (← b.set?)⟩
  | times r min max =>
    let piece := (r.branches captures).total
    if r.mustBeEmpty then
      ⟨timesSize piece r.mayBeEmpty (Nat.min min 1) (some ((max.getD 1).min 1)), 1, none⟩
    else ⟨timesSize piece r.mayBeEmpty min max, 1, none⟩
  | capture r => ⟨(r.branches captures).total + if captures then 2 * stateSize else 0, 1, none⟩

/-- The memory that a program may take. -/
def sizeLimit : Nat := 10 * 1024 * 1024

/-- Whether the program fits. It is built twice, and keeps track of pieces in one of the forms. -/
def fits (r : Regex) : Bool :=
  let frame := 6 * stateSize
  (r.branches true).total + frame ≤ sizeLimit && (r.branches false).total + frame ≤ sizeLimit

end Regex

end WmConfig
