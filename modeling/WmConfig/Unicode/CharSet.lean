import WmConfig.Number.Numeral
import WmConfig.Text.Blank
import WmConfig.Text.Split

/-! # Sets of characters

A set is given by its bounds: the scalar values, in increasing order, at which membership changes.
A character is in the set if an odd number of bounds is at most its value. All Boolean operations
are one walk over the bounds of two sets, and the complement adds or drops the bound zero.

* `contains_ofChar`, `contains_complement`: membership in the basic sets.
* `contains_combine`, `contains_unions`: membership in a Boolean combination and in a union. -/

namespace WmConfig

namespace CharSet

/-- The numbers increase, and none is below `low`. -/
def Ascending : (low : Nat) → List Nat → Prop
  | _, [] => True
  | low, b :: bounds => low ≤ b ∧ Ascending (b + 1) bounds

instance Ascending.decide : (low : Nat) → (bounds : List Nat) → Decidable (Ascending low bounds)
  | _, [] => isTrue trivial
  | low, b :: bounds =>
    have := Ascending.decide (b + 1) bounds
    inferInstanceAs (Decidable (low ≤ b ∧ Ascending (b + 1) bounds))

theorem Ascending.mono {low high : Nat} {bounds : List Nat} (h : Ascending high bounds)
    (hle : low ≤ high) : Ascending low bounds := by
  cases bounds with
  | nil => trivial
  | cons b bounds => exact ⟨Nat.le_trans hle h.1, h.2⟩

end CharSet

/-- A set of characters. -/
structure CharSet where
  /-- Where membership changes. -/
  bounds : List Nat
  /-- The bounds increase. -/
  ascending : CharSet.Ascending 0 bounds
deriving DecidableEq

namespace CharSet

/-- Whether membership has changed an odd number of times up to `n`, starting from `inside`. -/
def insideAt (n : Nat) (inside : Bool) : List Nat → Bool
  | [] => inside
  | b :: bounds => if b ≤ n then insideAt n (!inside) bounds else inside

/-- Membership. -/
def contains (s : CharSet) (c : Char) : Bool := insideAt c.toNat false s.bounds

/-- The empty set. -/
def empty : CharSet := ⟨[], trivial⟩

/-- The characters whose values are from `low` to `high`. -/
def ofRange (low high : Nat) : CharSet :=
  if h : low ≤ high then ⟨[low, high + 1], by simp [Ascending]; omega⟩ else empty

/-- A single character. -/
def ofChar (c : Char) : CharSet := ofRange c.toNat c.toNat

/-- Every other character. -/
def complement (s : CharSet) : CharSet :=
  match s with
  | ⟨[], _⟩ => ⟨[0], by simp [Ascending]⟩
  | ⟨0 :: bounds, h⟩ => ⟨bounds, h.2.mono (Nat.zero_le _)⟩
  | ⟨(b + 1) :: bounds, h⟩ => ⟨0 :: (b + 1) :: bounds, ⟨Nat.le_refl 0, ⟨by omega, h.2⟩⟩⟩

/-- Keeps a bound if membership changes there. -/
def keepIf (changes : Bool) (b : Nat) (bounds : List Nat) : List Nat :=
  if changes then b :: bounds else bounds

/-- The bounds of a combination of two sets, `p` and `q` telling whether the walk is inside the
first and inside the second. -/
def combineBounds (f : Bool → Bool → Bool) (p q : Bool) : List Nat → List Nat → List Nat
  | [], [] => []
  | a :: as, [] => keepIf (f p q != f (!p) q) a (combineBounds f (!p) q as [])
  | [], b :: bs => keepIf (f p q != f p (!q)) b (combineBounds f p (!q) [] bs)
  | a :: as, b :: bs =>
    if a < b then keepIf (f p q != f (!p) q) a (combineBounds f (!p) q as (b :: bs))
    else if b < a then keepIf (f p q != f p (!q)) b (combineBounds f p (!q) (a :: as) bs)
    else keepIf (f p q != f (!p) (!q)) a (combineBounds f (!p) (!q) as bs)
termination_by as bs => as.length + bs.length

theorem Ascending.keepIf {low b : Nat} {bounds : List Nat} (changes : Bool) (hb : low ≤ b)
    (h : Ascending (b + 1) bounds) : Ascending low (CharSet.keepIf changes b bounds) := by
  cases changes
  · exact h.mono (by omega)
  · exact ⟨hb, h⟩

theorem ascending_combineBounds (f : Bool → Bool → Bool) (p q : Bool) (as bs : List Nat)
    (low : Nat) (ha : Ascending low as) (hb : Ascending low bs) :
    Ascending low (combineBounds f p q as bs) := by
  fun_induction combineBounds f p q as bs generalizing low with
  | case1 => trivial
  | case2 p q a as ih => exact .keepIf _ ha.1 (ih _ ha.2 trivial)
  | case3 p q b bs ih => exact .keepIf _ hb.1 (ih _ trivial hb.2)
  | case4 p q a as b bs h ih => exact .keepIf _ ha.1 (ih _ ha.2 ⟨h, hb.2⟩)
  | case5 p q a as b bs h h' ih => exact .keepIf _ hb.1 (ih _ ⟨h', ha.2⟩ hb.2)
  | case6 p q a as b bs h h' ih =>
    obtain rfl : a = b := by omega
    exact .keepIf _ ha.1 (ih _ ha.2 hb.2)

/-- The characters for which `f` of the two memberships holds; `f` is false on what is in neither
set. -/
def combine (f : Bool → Bool → Bool) (s t : CharSet) : CharSet :=
  ⟨combineBounds f false false s.bounds t.bounds,
    ascending_combineBounds f _ _ _ _ 0 s.ascending t.ascending⟩

/-- What is in either set. -/
def union (s t : CharSet) : CharSet := combine or s t

/-- What is in both sets. -/
def inter (s t : CharSet) : CharSet := combine and s t

/-- What is in the first set but not in the second. -/
def diff (s t : CharSet) : CharSet := combine (fun p q => p && !q) s t

/-- What is in exactly one of the sets. -/
def symmDiff (s t : CharSet) : CharSet := combine xor s t

instance : Union CharSet := ⟨union⟩

instance : Inter CharSet := ⟨inter⟩

instance : SDiff CharSet := ⟨diff⟩

/-- Joins each set with its neighbour. -/
def pairUp : List CharSet → List CharSet
  | s :: t :: rest => (s ∪ t) :: pairUp rest
  | l => l

theorem length_pairUp_le : (l : List CharSet) → (pairUp l).length ≤ l.length
  | [] => Nat.le_refl _
  | [_] => Nat.le_refl _
  | s :: t :: rest => by simpa [pairUp] using Nat.le_succ_of_le (length_pairUp_le rest)

/-- What is in any of the sets. -/
def unions : List CharSet → CharSet
  | [] => empty
  | [s] => s
  | s :: t :: rest => unions ((s ∪ t) :: pairUp rest)
termination_by l => l.length
decreasing_by simp; have := length_pairUp_le rest; omega

/-! ### Ranges -/

/-- Pairs the bounds up: the first value of each range and the first one after it. -/
def spans : List Nat → List (Nat × Nat)
  | low :: next :: bounds => (low, next) :: spans bounds
  | [low] => [(low, 0x110000)]
  | [] => []

/-- The ranges of a set, each with its first value and the first one after it. -/
def ranges (s : CharSet) : List (Nat × Nat) := spans s.bounds

/-- The single member of a set that has only one. -/
def single? (s : CharSet) : Option Char :=
  match s.bounds with
  | [low, next] => if low + 1 = next ∧ low.isValidChar then some (Char.ofNat low) else none
  | _ => none

/-! ### Ranges as texts -/

/-- The bounds of the values `low`, `low + step` and so on up to `high`. -/
def stepped (low high step : Nat) : List Nat :=
  (List.range ((high - low) / step + 1)).flatMap fun i => [low + i * step, low + i * step + 1]

/-- The bounds of `low`, `low-high` or `low-high/step`, numbers in hexadecimal. -/
def itemBounds? (item : List Char) : Option (List Nat) :=
  match cutFirst? '-' item with
  | none => (Numeral.value? 16 item).map fun n => [n, n + 1]
  | some (low, rest) =>
    match cutFirst? '/' rest with
    | none => do return [← Numeral.value? 16 low, (← Numeral.value? 16 rest) + 1]
    | some (high, step) => do
      return stepped (← Numeral.value? 16 low) (← Numeral.value? 16 high)
        (← Numeral.value? 16 step)

/-- The words of a text. -/
def words (cs : List Char) : List (List Char) :=
  (cs.splitBy fun a b => isBlank a == isBlank b).filter fun word => !word.all isBlank

/-- Reads a set written as increasing ranges with gaps between them. Any other text gives the empty
set. -/
def ofText (text : String) : CharSet :=
  match (words text.toList).mapM itemBounds? with
  | none => empty
  | some items => if h : Ascending 0 items.flatten then ⟨items.flatten, h⟩ else empty

/-! ### Membership -/

theorem insideAt_not (n : Nat) (inside : Bool) (bounds : List Nat) :
    insideAt n (!inside) bounds = !insideAt n inside bounds := by
  induction bounds generalizing inside with
  | nil => rfl
  | cons b bounds ih => simp only [insideAt]; split <;> simp [ih]

theorem insideAt_of_lt {n low : Nat} (inside : Bool) {bounds : List Nat} (h : Ascending low bounds)
    (hlt : n < low) : insideAt n inside bounds = inside := by
  cases bounds with
  | nil => rfl
  | cons b bounds => have := h.1; simp [insideAt]; omega

@[simp] theorem contains_empty (c : Char) : empty.contains c = false := rfl

@[simp] theorem contains_ofRange (low high : Nat) (c : Char) :
    (ofRange low high).contains c = (decide (low ≤ c.toNat) && decide (c.toNat ≤ high)) := by
  unfold ofRange
  split <;> simp [contains, insideAt, empty] <;> grind

@[simp] theorem contains_ofChar (a c : Char) : (ofChar a).contains c = decide (c = a) := by
  simp only [ofChar, contains_ofRange, ← Char.toNat_inj]
  grind

@[simp] theorem contains_complement (s : CharSet) (c : Char) :
    s.complement.contains c = !s.contains c := by
  unfold complement
  split <;> simp [contains, insideAt, ← insideAt_not]

theorem insideAt_keepIf (n b : Nat) (x y : Bool) {bounds : List Nat}
    (h : Ascending (b + 1) bounds) :
    insideAt n x (keepIf (x != y) b bounds) = if b ≤ n then insideAt n y bounds else x := by
  by_cases hb : b ≤ n
  · cases x <;> cases y <;> simp [keepIf, insideAt, hb]
  · have : insideAt n x bounds = x := insideAt_of_lt x h (by omega)
    cases x <;> cases y <;> simp_all [keepIf, insideAt]

theorem insideAt_combineBounds (f : Bool → Bool → Bool) (n : Nat) (p q : Bool) (as bs : List Nat)
    (low : Nat) (ha : Ascending low as) (hb : Ascending low bs) :
    insideAt n (f p q) (combineBounds f p q as bs) = f (insideAt n p as) (insideAt n q bs) := by
  fun_induction combineBounds f p q as bs generalizing low with
  | case1 => simp [insideAt]
  | case2 p q a as ih =>
    rw [insideAt_keepIf _ _ _ _ (ascending_combineBounds f (!p) q as [] _ ha.2 trivial),
      ih _ ha.2 trivial]
    simp only [insideAt]
    split <;> rfl
  | case3 p q b bs ih =>
    rw [insideAt_keepIf _ _ _ _ (ascending_combineBounds f p (!q) [] bs _ trivial hb.2),
      ih _ trivial hb.2]
    simp only [insideAt]
    split <;> rfl
  | case4 p q a as b bs h ih =>
    have hb' : Ascending (a + 1) (b :: bs) := ⟨h, hb.2⟩
    rw [insideAt_keepIf _ _ _ _ (ascending_combineBounds f (!p) q as (b :: bs) _ ha.2 hb'),
      ih _ ha.2 hb']
    simp only [insideAt]
    grind
  | case5 p q a as b bs h h' ih =>
    have ha' : Ascending (b + 1) (a :: as) := ⟨h', ha.2⟩
    rw [insideAt_keepIf _ _ _ _ (ascending_combineBounds f p (!q) (a :: as) bs _ ha' hb.2),
      ih _ ha' hb.2]
    simp only [insideAt]
    grind
  | case6 p q a as b bs h h' ih =>
    obtain rfl : a = b := by omega
    rw [insideAt_keepIf _ _ _ _ (ascending_combineBounds f (!p) (!q) as bs _ ha.2 hb.2),
      ih _ ha.2 hb.2]
    simp only [insideAt]
    grind

theorem contains_combine (f : Bool → Bool → Bool) (h : f false false = false) (s t : CharSet)
    (c : Char) : (combine f s t).contains c = f (s.contains c) (t.contains c) := by
  have := insideAt_combineBounds f c.toNat false false s.bounds t.bounds 0 s.ascending t.ascending
  simpa [contains, combine, h] using this

@[simp] theorem contains_union (s t : CharSet) (c : Char) :
    (s ∪ t).contains c = (s.contains c || t.contains c) := contains_combine or rfl s t c

@[simp] theorem contains_inter (s t : CharSet) (c : Char) :
    (s ∩ t).contains c = (s.contains c && t.contains c) := contains_combine and rfl s t c

@[simp] theorem contains_sdiff (s t : CharSet) (c : Char) :
    (s \ t).contains c = (s.contains c && !t.contains c) := contains_combine _ rfl s t c

@[simp] theorem contains_symmDiff (s t : CharSet) (c : Char) :
    (symmDiff s t).contains c = (s.contains c ^^ t.contains c) := contains_combine xor rfl s t c

theorem contains_pairUp (l : List CharSet) (c : Char) :
    (pairUp l).any (·.contains c) = l.any (·.contains c) := by
  fun_induction pairUp l with
  | case1 s t rest ih => simp [ih, Bool.or_assoc]
  | case2 => rfl

@[simp] theorem contains_unions (l : List CharSet) (c : Char) :
    (unions l).contains c = l.any (·.contains c) := by
  fun_induction unions l with
  | case1 => rfl
  | case2 => simp
  | case3 s t rest ih => simp [ih, contains_pairUp, Bool.or_assoc]

end CharSet

end WmConfig
