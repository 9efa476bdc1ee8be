import WmConfig.Pattern.Regex

/-! # Search

Where an expression matches a text. For each place of the text, from the first to the last, a row
tells how long the pieces are that match there: bit `k` is set if a piece of `k` characters does.
The rows of an expression are computed from those of its parts; since pieces only reach forward,
repetition is settled place by place from the end of the text. -/

namespace WmConfig.Regex

/-- The lengths reached by one piece with a length in `row` and a second piece, `rows` being the
rows of the second one from the place where the first one starts. -/
def reach (row : Nat) : List Nat → Nat
  | [] => 0
  | next :: rows =>
    if row = 0 then 0
    else (if row.testBit 0 then next else 0) ||| (reach (row >>> 1) rows) <<< 1

/-- One piece and then a second one. -/
def andThen : List Nat → List Nat → List Nat
  | row :: rows, next :: nexts => reach row (next :: nexts) :: andThen rows nexts
  | _, _ => []

/-- The empty piece at each place. -/
def stay (rows : List Nat) : List Nat := rows.map fun _ => 1

/-- A piece or nothing. -/
def optional (rows : List Nat) : List Nat := rows.map fun row => row ||| 1

/-- Any number of pieces in a row. The first one that is not empty ends at a later place, where the
answer is known. -/
def closure : List Nat → List Nat
  | [] => []
  | row :: rows =>
    let later := closure rows
    (1 ||| (reach (row >>> 1) later) <<< 1) :: later

/-- Exactly `n` pieces in a row. -/
def power (rows : List Nat) (n : Nat) : List Nat :=
  if n = 0 then stay rows
  else
    let half := power rows (n / 2)
    if n % 2 = 0 then andThen half half else andThen rows (andThen half half)

/-- The rows of an expression at the given places. -/
def rows (gaps : List Gap) : Regex → List Nat
  | empty => gaps.map fun _ => 1
  | look l => gaps.map fun gap => if l.holds gap then 1 else 0
  | set s => gaps.map fun gap => if gap.after.any s.contains then 2 else 0
  | concat r s => andThen (r.rows gaps) (s.rows gaps)
  | either r s => List.zipWith (· ||| ·) (r.rows gaps) (s.rows gaps)
  | times r min none => andThen (power (r.rows gaps) min) (closure (r.rows gaps))
  | times r min (some max) =>
    andThen (power (r.rows gaps) min) (power (optional (r.rows gaps)) (max - min))
  | capture r => r.rows gaps

/-- Whether a piece of the text matches. -/
def isFoundIn (r : Regex) (text : List Char) : Bool := (r.rows (Gap.all none text)).any (· != 0)

end WmConfig.Regex
