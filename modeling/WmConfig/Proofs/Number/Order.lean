import WmConfig.Proofs.Number.Exact

/-! # The order of numbers

The order of finite numbers is that of the rationals that they stand for (`lt_finite_iff`), so a
share of the master area is a rational above zero and at most one (`share_iff`). -/

namespace WmConfig.Binary

variable {p : Precision}

/-- The rational that a finite number stands for. -/
def toRat? : Binary p → Option ℚ
  | .finite negative significand exponent _ =>
    some ((if negative then -1 else 1) * significand * 2 ^ exponent)
  | _ => none

/-- A multiple of a unit stands for the same rational as the number. -/
theorem multipleOf_mul {unit e : Int} (h : unit ≤ e) (negative : Bool) (m : Nat) :
    (multipleOf unit negative m e : ℚ) * 2 ^ unit = (if negative then -1 else 1) * m * 2 ^ e := by
  obtain ⟨k, hk⟩ := Int.eq_ofNat_of_zero_le (show 0 ≤ e - unit by omega)
  have hscale : (2 : ℚ) ^ e = 2 ^ k * 2 ^ unit := by
    rw [two_zpow_eq_mul (b := (k : Int)) (c := unit) (by omega), zpow_natCast]
  have hcast : ((m * Nat.pow 2 k : Nat) : ℚ) = m * 2 ^ k := by
    rw [show Nat.pow 2 k = 2 ^ k from rfl]
    push_cast
    rfl
  unfold multipleOf
  rw [hk, Int.toNat_natCast, hscale]
  cases negative
  · simp only [Bool.false_eq_true, if_false, Int.cast_natCast, hcast]
    ring
  · simp only [if_true, Int.cast_neg, Int.cast_natCast, hcast]
    ring

theorem lt_finite_iff {s t : Bool} {m n : Nat} {e f : Int} {hm : p.Canonical m e}
    {hn : p.Canonical n f} :
    (finite s m e hm).lt (finite t n f hn) = true ↔
      ((if s then -1 else 1) * m * 2 ^ e : ℚ) < (if t then -1 else 1) * n * 2 ^ f := by
  have hunit : (0 : ℚ) < 2 ^ min e f := by positivity
  rw [← multipleOf_mul (min_le_left e f), ← multipleOf_mul (min_le_right e f),
    mul_lt_mul_iff_left₀ hunit, Int.cast_lt]
  exact decide_eq_true_iff

/-- **Shares as rationals.** -/
theorem share_iff (x : Binary64) :
    ((zero false).lt x = true ∧ x.le (ofInt 1) = true) ↔
      ∃ q, x.toRat? = some q ∧ 0 < q ∧ q ≤ 1 := by
  have hzero : (zero false : Binary64) = .finite false 0 (-1074) (by decide) := by decide
  have hone : ((2 ^ 52 : Nat) : ℚ) * 2 ^ (-52 : Int) = 1 := by norm_num
  rw [hzero, ofInt_one_eq]
  cases x with
  | nan => simp [lt, toRat?]
  | infinity negative => cases negative <;> simp [lt, le, toRat?]
  | finite negative m e h =>
    have hle : (finite negative m e h).le (.finite false (2 ^ 52) (-52) (by decide)) = true ↔
        ¬ (finite false (2 ^ 52) (-52) (by decide)).lt (.finite negative m e h) = true := by
      simp [le]
    rw [hle, lt_finite_iff, lt_finite_iff]
    simp only [toRat?, Option.some.injEq, exists_eq_left', Bool.false_eq_true, if_false, one_mul,
      not_lt, hone, Nat.cast_zero, zero_mul]

end WmConfig.Binary
