import WmConfig.Number.Binary
import Mathlib.Algebra.Order.Field.Power
import Mathlib.Tactic.FieldSimp
import Mathlib.Tactic.Linarith
import Mathlib.Tactic.Positivity
import Mathlib.Tactic.Ring

/-! # Numbers that are rounded to themselves

A ratio that is a number of the format already is rounded to that number (`ofRatio_exact`), and so
is a decimal (`ofDecimal_exact`). The exponent is found by comparing logarithms: it is the one at
which the ratio has a full significand, unless that lies below the least one. -/

namespace WmConfig.Binary

variable {p : Precision} {num den m : Nat} {e : Int}

/-! ### Scaling -/

theorem two_zpow_eq_mul {a b c : Int} (h : a = b + c) : (2 : ℚ) ^ a = 2 ^ b * 2 ^ c := by
  rw [h, zpow_add₀ two_ne_zero]

theorem scaleDown_eq (num den : Nat) (e : Int) :
    ((scaleDown num den e).1 : ℚ) / (scaleDown num den e).2 = num / den * 2 ^ (-e) := by
  have hpow : ((2 : ℚ) ^ (-e).toNat) / 2 ^ e.toNat = 2 ^ (-e) := by
    rcases Int.le_total 0 e with he | he
    · obtain ⟨n, rfl⟩ := Int.eq_ofNat_of_zero_le he
      have hneg : (-(n : Int)).toNat = 0 := by omega
      rw [hneg, Int.toNat_natCast, zpow_neg, zpow_natCast, pow_zero, one_div]
    · obtain ⟨n, hn⟩ := Int.eq_ofNat_of_zero_le (show 0 ≤ -e by omega)
      have hpos : e.toNat = 0 := by omega
      rw [hn, hpos, Int.toNat_natCast, zpow_natCast, pow_zero, div_one]
  have hcast : ∀ n : Nat, ((Nat.pow 2 n : Nat) : ℚ) = 2 ^ n := fun n => by
    rw [show Nat.pow 2 n = 2 ^ n from rfl]
    push_cast
    rfl
  unfold scaleDown
  rw [← hpow]
  simp only [Nat.cast_mul, hcast]
  field_simp

theorem scaleDown_pos (hden : 0 < den) (e : Int) : 0 < (scaleDown num den e).2 :=
  Nat.mul_pos hden (Nat.pow_pos (by decide))

/-- The bounds that a logarithm gives. -/
theorem log2_bounds {n : Nat} (hn : 0 < n) :
    (2 : ℚ) ^ (n.log2 : Int) ≤ n ∧ (n : ℚ) < 2 ^ ((n.log2 : Int) + 1) := by
  have hlow : 2 ^ n.log2 ≤ n := Nat.log2_self_le (Nat.ne_of_gt hn)
  have hhigh : n < 2 ^ (n.log2 + 1) := Nat.lt_log2_self
  constructor
  · rw [zpow_natCast]
    exact_mod_cast hlow
  · rw [show (n.log2 : Int) + 1 = ((n.log2 + 1 : Nat) : Int) by push_cast; ring, zpow_natCast]
    exact_mod_cast hhigh

/-- The quotient of a scaled ratio stays below a bound iff the ratio does. -/
theorem scaleDown_div_lt (hden : 0 < den) (e : Int) (n : Nat) :
    (scaleDown num den e).1 / (scaleDown num den e).2 < Nat.pow 2 n ↔
      (num : ℚ) / den * 2 ^ (-e) < 2 ^ (n : Int) := by
  have hpos : (0 : ℚ) < (scaleDown num den e).2 := by exact_mod_cast scaleDown_pos hden e
  rw [Nat.div_lt_iff_lt_mul (scaleDown_pos hden e), ← scaleDown_eq, div_lt_iff₀ hpos, zpow_natCast]
  exact_mod_cast Iff.rfl

/-! ### Exponents -/

/-- What the logarithms of a ratio say about it. -/
theorem ratio_bounds (hnum : 0 < num) (hden : 0 < den) :
    (2 : ℚ) ^ ((num.log2 : Int) - den.log2 - 1) < num / den ∧
      (num : ℚ) / den < 2 ^ ((num.log2 : Int) - den.log2 + 1) := by
  obtain ⟨hnum₁, hnum₂⟩ := log2_bounds hnum
  obtain ⟨hden₁, hden₂⟩ := log2_bounds hden
  have hpos : (0 : ℚ) < den := by exact_mod_cast hden
  constructor
  · rw [lt_div_iff₀ hpos]
    calc (2 : ℚ) ^ ((num.log2 : Int) - den.log2 - 1) * den
        < 2 ^ ((num.log2 : Int) - den.log2 - 1) * 2 ^ ((den.log2 : Int) + 1) := by gcongr
      _ = 2 ^ (num.log2 : Int) := (two_zpow_eq_mul (by omega)).symm
      _ ≤ num := hnum₁
  · rw [div_lt_iff₀ hpos]
    calc (num : ℚ) < 2 ^ ((num.log2 : Int) + 1) := hnum₂
      _ = 2 ^ ((num.log2 : Int) - den.log2 + 1) * 2 ^ (den.log2 : Int) :=
          two_zpow_eq_mul (by omega)
      _ ≤ 2 ^ ((num.log2 : Int) - den.log2 + 1) * den := by gcongr

/-- At the exponent that is found a ratio has a full significand, unless it is the least one. -/
theorem exponentOf_spec (hdigits : 0 < p.digits) (hnum : 0 < num) (hden : 0 < den) :
    ∃ r : Int, exponentOf p num den = max r p.minExponent ∧
      (2 : ℚ) ^ ((p.digits : Int) - 1) ≤ num / den * 2 ^ (-r) ∧
        (num : ℚ) / den * 2 ^ (-r) < 2 ^ (p.digits : Int) := by
  obtain ⟨hlow, hhigh⟩ := ratio_bounds hnum hden
  have hpred : ((p.digits - 1 : Nat) : Int) = (p.digits : Int) - 1 := by omega
  obtain ⟨guess, hguess⟩ : ∃ g : Int, g = (num.log2 : Int) - den.log2 - p.digits + 1 := ⟨_, rfl⟩
  have hfull : (scaleDown num den guess).1 / (scaleDown num den guess).2 <
      Nat.pow 2 (p.digits - 1) ↔ (num : ℚ) / den * 2 ^ (-guess) < 2 ^ ((p.digits : Int) - 1) := by
    rw [← hpred]
    exact scaleDown_div_lt hden guess _
  have hexponent : exponentOf p num den = max (if (scaleDown num den guess).1 /
      (scaleDown num den guess).2 < Nat.pow 2 (p.digits - 1) then guess - 1 else guess)
        p.minExponent := by
    rw [hguess]
    rfl
  split_ifs at hexponent with h
  · -- The guess is one too large, so twice the scaled ratio is looked at.
    have hdouble : (num : ℚ) / den * 2 ^ (-(guess - 1)) = num / den * 2 ^ (-guess) * 2 := by
      rw [neg_sub, sub_eq_add_neg, zpow_add₀ two_ne_zero, zpow_one]
      ring
    refine ⟨guess - 1, hexponent, ?_, ?_⟩
    · have hscaled : (2 : ℚ) ^ ((p.digits : Int) - 1) =
          2 ^ ((num.log2 : Int) - den.log2 - 1) * 2 ^ (-(guess - 1)) :=
        two_zpow_eq_mul (by omega)
      rw [hscaled]
      gcongr
    · have htwo : (2 : ℚ) ^ (p.digits : Int) = 2 ^ ((p.digits : Int) - 1) * 2 :=
        two_zpow_eq_mul (c := 1) (by omega)
      rw [hdouble, htwo]
      have := hfull.mp h
      gcongr
  · refine ⟨guess, hexponent, not_lt.mp fun hlt => h (hfull.mpr hlt), ?_⟩
    have hscaled : (2 : ℚ) ^ (p.digits : Int) =
        2 ^ ((num.log2 : Int) - den.log2 + 1) * 2 ^ (-guess) := two_zpow_eq_mul (by omega)
    rw [hscaled]
    gcongr

/-- **A number of the format has its own exponent.** -/
theorem exponentOf_exact (hdigits : 0 < p.digits) (hnum : 0 < num) (hden : 0 < den)
    (h : p.Canonical m e) (hvalue : (num : ℚ) / den = m * 2 ^ e) : exponentOf p num den = e := by
  obtain ⟨r, hr, hlow, hhigh⟩ := exponentOf_spec hdigits hnum hden
  obtain ⟨hfit, hmin, -, hfull⟩ := h
  have hfit' : (m : ℚ) < 2 ^ (p.digits : Int) := by
    rw [zpow_natCast]
    exact_mod_cast hfit
  have hm : (0 : ℚ) ≤ m := Nat.cast_nonneg m
  have hscaled : (num : ℚ) / den * 2 ^ (-r) = m * 2 ^ (e - r) := by
    rw [hvalue, mul_assoc, ← zpow_add₀ two_ne_zero]
    congr 2
  rw [hscaled] at hlow hhigh
  have hle : r ≤ e := by
    by_contra hlt
    have hhalf : (2 : ℚ) ^ (e - r) ≤ 2 ^ (-1 : Int) := zpow_le_zpow_right₀ one_le_two (by omega)
    have : (m : ℚ) * 2 ^ (e - r) < 2 ^ ((p.digits : Int) - 1) := by
      calc (m : ℚ) * 2 ^ (e - r) ≤ m * 2 ^ (-1 : Int) := by gcongr
        _ < 2 ^ (p.digits : Int) * 2 ^ (-1 : Int) := by gcongr
        _ = 2 ^ ((p.digits : Int) - 1) := (two_zpow_eq_mul (by omega)).symm
    linarith
  rcases hfull with hfull | hleast
  · have hge : e ≤ r := by
      by_contra hlt
      have hfull' : (2 : ℚ) ^ ((p.digits : Int) - 1) ≤ m := by
        rw [show (p.digits : Int) - 1 = ((p.digits - 1 : Nat) : Int) by omega, zpow_natCast]
        exact_mod_cast hfull
      have htwice : (2 : ℚ) ^ (1 : Int) ≤ 2 ^ (e - r) := zpow_le_zpow_right₀ one_le_two (by omega)
      have : (2 : ℚ) ^ (p.digits : Int) ≤ m * 2 ^ (e - r) := by
        calc (2 : ℚ) ^ (p.digits : Int) = 2 ^ ((p.digits : Int) - 1) * 2 ^ (1 : Int) :=
              two_zpow_eq_mul (by omega)
          _ ≤ m * 2 ^ (e - r) := by gcongr
      linarith
    rw [hr]
    omega
  · rw [hr]
    omega

/-! ### Rounding -/

theorem roundHalfEven_mul (m : Nat) {k : Nat} (hk : 0 < k) : roundHalfEven (m * k) k = m := by
  rw [roundHalfEven, Nat.mul_mod_left, if_pos (Or.inl (by omega)), Nat.mul_div_cancel _ hk]

/-- **A number of the format is rounded to itself.** -/
theorem ofRatio_exact (hdigits : 0 < p.digits) (negative : Bool) (hm : 0 < m) (hden : 0 < den)
    (h : p.Canonical m e) (hvalue : (num : ℚ) / den = m * 2 ^ e) :
    ofRatio negative num den = .finite negative m e h := by
  have hpos : (0 : ℚ) < den := by exact_mod_cast hden
  have hnum : 0 < num := by
    have : (0 : ℚ) < num / den := by
      rw [hvalue]
      positivity
    exact_mod_cast (div_pos_iff_of_pos_right hpos).mp this
  have hscaled : (scaleDown num den e).1 = m * (scaleDown num den e).2 := by
    have hpos' : (0 : ℚ) < (scaleDown num den e).2 := by exact_mod_cast scaleDown_pos hden e
    have hratio : ((scaleDown num den e).1 : ℚ) / (scaleDown num den e).2 = m := by
      rw [scaleDown_eq, hvalue, mul_assoc, ← zpow_add₀ two_ne_zero, add_neg_cancel, zpow_zero,
        mul_one]
    rw [div_eq_iff hpos'.ne'] at hratio
    exact_mod_cast hratio
  simp only [ofRatio, exponentOf_exact hdigits hnum hden h hvalue, hscaled,
    roundHalfEven_mul m (scaleDown_pos hden e)]
  rw [if_neg (Nat.ne_of_gt hnum), if_neg (Nat.ne_of_lt h.1), ofParts, dif_pos h]

/-- A number of the format without a whole part, as a decimal. -/
theorem ofDecimal_exact (hdigits : 0 < p.digits) (negative : Bool) (hm : 0 < m) {k : Nat}
    (h : p.Canonical m (-(k : Int))) :
    ofDecimal negative (m * 5 ^ k) (-(k : Int)) = .finite negative m (-(k : Int)) h := by
  have hpos : 0 < m * 5 ^ k := Nat.mul_pos hm (Nat.pow_pos (by decide))
  -- Every factor 5 adds at least two bits, so the magnitude stays above the least exponent.
  have hlog : 2 * k ≤ (m * 5 ^ k).log2 := by
    rw [Nat.le_log2 (Nat.ne_of_gt hpos), Nat.pow_mul]
    calc (2 ^ 2) ^ k ≤ 5 ^ k := Nat.pow_le_pow_left (by decide) k
      _ ≤ m * 5 ^ k := Nat.le_mul_of_pos_left _ hm
  have hmin := h.2.1
  have hvalue : ((m * 5 ^ k * Nat.pow 10 (-(k : Int)).toNat : Nat) : ℚ) /
      (Nat.pow 10 (-(-(k : Int))).toNat : Nat) = m * 2 ^ (-(k : Int)) := by
    have hzero : (-(k : Int)).toNat = 0 := by omega
    have hten : (10 : ℚ) ^ k = 5 ^ k * 2 ^ k := by
      rw [← mul_pow]
      norm_num
    rw [hzero, neg_neg, Int.toNat_natCast, show Nat.pow 10 k = 10 ^ k from rfl,
      show Nat.pow 10 0 = 1 from rfl, mul_one, zpow_neg, zpow_natCast]
    push_cast
    rw [hten]
    field_simp
  unfold ofDecimal
  rw [if_neg (Nat.ne_of_gt hpos), if_neg (by omega), if_neg (by omega)]
  exact ofRatio_exact hdigits negative hm (Nat.pow_pos (by decide)) h hvalue

/-! ### Shares -/

/-- One, as a number of the format. -/
theorem ofInt_one_eq : (ofInt 1 : Binary64) = .finite false (2 ^ 52) (-52) (by decide) := by
  decide +kernel

/-- A number with a unit above one is more than one. -/
theorem one_lt_of_exponent_pos {m : Nat} {e : Int} (h : Precision.double.Canonical m e)
    (he : 0 < e) : (ofInt 1 : Binary64).lt (.finite false m e h) = true := by
  have hfull : 2 ^ 52 ≤ m := by
    rcases h.2.2.2 with hfull | hleast
    · exact hfull
    · change e = -1074 at hleast
      omega
  have hunit : min (-52) e = -52 := by omega
  have hscale : 2 ≤ Nat.pow 2 (e - -52).toNat := by
    calc 2 = 2 ^ 1 := rfl
      _ ≤ 2 ^ (e - -52).toNat := Nat.pow_le_pow_right (by decide) (by omega)
  have hlt : 2 ^ 52 < m * Nat.pow 2 (e - -52).toNat := by
    calc 2 ^ 52 < 2 ^ 52 * 2 := by decide
      _ ≤ m * Nat.pow 2 (e - -52).toNat := Nat.mul_le_mul hfull hscale
  rw [ofInt_one_eq]
  simp only [lt, multipleOf, hunit, decide_eq_true_eq, Bool.false_eq_true, if_false]
  exact_mod_cast hlt

/-- A positive number that is at most one has no whole part below its last bit. -/
theorem exists_finite_of_share {x : Binary64} (hpos : (zero false).lt x = true)
    (hle : x.le (ofInt 1) = true) :
    ∃ (m k : Nat) (h : Precision.double.Canonical m (-(k : Int))),
      0 < m ∧ x = .finite false m (-(k : Int)) h := by
  have hzero : (zero false : Binary64) = .finite false 0 (-1074) (by decide) := by decide
  rw [hzero] at hpos
  cases x with
  | nan => cases hpos
  | infinity negative =>
    rw [ofInt_one_eq] at hle
    cases negative <;> simp [lt, le] at hpos hle
  | finite negative m e h =>
    simp only [lt, multipleOf, decide_eq_true_eq, Nat.zero_mul, Bool.false_eq_true,
      if_false] at hpos
    cases negative with
    | true =>
      simp only [if_true] at hpos
      have hnonneg := Int.natCast_nonneg (m * Nat.pow 2 (e - min (-1074) e).toNat)
      omega
    | false =>
      have hm : 0 < m := by
        rcases Nat.eq_zero_or_pos m with rfl | hm
        · simp at hpos
        · exact hm
      have he : e ≤ 0 := by
        by_contra hlarge
        have hlt := one_lt_of_exponent_pos h (by omega)
        rw [ofInt_one_eq] at hle hlt
        have hnot : ¬ lt (.finite false (2 ^ 52) (-52) (by decide)) (.finite false m e h) =
            true := by
          simpa [le] using hle
        exact hnot hlt
      obtain ⟨k, hk⟩ := Int.eq_ofNat_of_zero_le (show 0 ≤ -e by omega)
      obtain rfl : e = -(k : Int) := by omega
      exact ⟨m, k, h, hm, rfl⟩

end WmConfig.Binary
