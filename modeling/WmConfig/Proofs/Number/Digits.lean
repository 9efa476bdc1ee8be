import Mathlib.Data.Nat.Digits.Lemmas
import Mathlib.Tactic.Ring
import Mathlib.Tactic.SplitIfs
import WmConfig.Number.Numeral

/-! # The value of a numeral

A numeral of a base up to sixteen is read as the number that its digits stand for, the last one for
the units and each one before for `base` times as much (`value?_eq_some_iff`). A numeral of a given
width has a value below the base to the power of the width (`number_lt`), and digits put behind it
move its value up (`number_append`). -/

namespace WmConfig.Numeral

/-- The digits in the order of their values. -/
def digits : List Char :=
  ['0', '1', '2', '3', '4', '5', '6', '7', '8', '9', 'a', 'b', 'c', 'd', 'e', 'f']

/-- The value of a digit, a letter in either case. What is no digit has the value sixteen, so it is
no digit of any base. -/
def digitValue (c : Char) : Nat := digits.idxOf c.toLower

/-- All characters are digits of the base. -/
def AreDigits (base : Nat) (cs : List Char) : Prop := ∀ c ∈ cs, digitValue c < base

/-- The number that digits stand for. -/
def number (base : Nat) (cs : List Char) : Nat := Nat.ofDigits base (cs.map digitValue).reverse

instance (base : Nat) (cs : List Char) : Decidable (AreDigits base cs) :=
  List.decidableBAll (digitValue · < base) cs

/-! ### One digit -/

/-- A digit is a character of ASCII. -/
theorem digitValue_of_le {c : Char} (hc : 128 ≤ c.toNat) : digitValue c = 16 := by
  have hlower : c.toLower = c :=
    dif_neg fun h => absurd (show c.toNat ≤ 'Z'.toNat from h.2) (by simp; omega)
  have hdigits : c ∉ digits := by
    have hascii : ∀ d ∈ digits, d.toNat < 128 := by simp [digits]
    exact fun h => absurd (hascii c h) (by omega)
  rw [digitValue, hlower, List.idxOf_eq_length hdigits]
  rfl

theorem digit?_eq (c : Char) : digit? c = if digitValue c < 16 then some (digitValue c) else none := by
  by_cases hc : c.toNat < 128
  · have hascii : ∀ n < 128, digit? (Char.ofNat n) =
        if digitValue (Char.ofNat n) < 16 then some (digitValue (Char.ofNat n)) else none := by
      decide +kernel
    rw [← Char.ofNat_toNat c]
    exact hascii c.toNat hc
  · have hle : ∀ d : Char, d.toNat < 128 → ¬ c ≤ d := fun d hd hcd =>
      hc (Nat.lt_of_le_of_lt (show c.toNat ≤ d.toNat from hcd) hd)
    rw [digit?, if_neg fun h => hle '9' (by decide) h.2, if_neg fun h => hle 'f' (by decide) h.2,
      if_neg fun h => hle 'F' (by decide) h.2, digitValue_of_le (by omega)]
    rfl

theorem digitOf?_eq {base : Nat} (hbase : base ≤ 16) (c : Char) :
    digitOf? base c = if digitValue c < base then some (digitValue c) else none := by
  rw [digitOf?, digit?_eq]
  split_ifs with h h' h'
  · exact Option.filter_some_eq_some.mpr (decide_eq_true h')
  · exact Option.filter_some_eq_none.mpr (by simpa using h')
  · omega
  · rfl

/-! ### Several digits -/

variable {base : Nat} {cs ds : List Char} {n : Nat}

theorem AreDigits.append (hcs : AreDigits base cs) (hds : AreDigits base ds) :
    AreDigits base (cs ++ ds) := List.forall_mem_append.mpr ⟨hcs, hds⟩

theorem number_nil (base : Nat) : number base [] = 0 := rfl

theorem number_append (base : Nat) (cs ds : List Char) :
    number base (cs ++ ds) = number base cs * base ^ ds.length + number base ds := by
  rw [number, number, number, List.map_append, List.reverse_append, Nat.ofDigits_append,
    List.length_reverse, List.length_map]
  ring

theorem number_cons (base : Nat) (c : Char) (cs : List Char) :
    number base (c :: cs) = digitValue c * base ^ cs.length + number base cs := by
  have happend := number_append base [c] cs
  rwa [show number base [c] = digitValue c by simp [number]] at happend

theorem number_lt (hbase : 1 < base) (h : AreDigits base cs) :
    number base cs < base ^ cs.length := by
  have hlt := Nat.ofDigits_lt_base_pow_length (b := base) (l := (cs.map digitValue).reverse) hbase
    (by simpa [AreDigits] using h)
  rwa [List.length_reverse, List.length_map] at hlt

/-- Zeros behind the digits. -/
theorem number_zeros (base k : Nat) : number base (List.replicate k '0') = 0 := by
  induction k with
  | zero => rfl
  | succ k ih =>
    rw [List.replicate_succ, number_cons, ih, show digitValue '0' = 0 by decide]
    simp

theorem extend?_eq_some_iff (hbase : base ≤ 16) {acc : Nat} :
    extend? base acc cs = some n ↔ AreDigits base cs ∧ n = acc * base ^ cs.length + number base cs := by
  induction cs generalizing acc with
  | nil => simp [extend?, AreDigits, number_nil, eq_comm]
  | cons c cs ih =>
    rw [extend?, digitOf?_eq hbase, AreDigits, List.forall_mem_cons]
    split_ifs with hc
    · rw [Option.bind_some, ih, number_cons, List.length_cons, Nat.pow_succ]
      constructor
      · rintro ⟨hcs, rfl⟩
        exact ⟨⟨hc, hcs⟩, by ring⟩
      · rintro ⟨⟨-, hcs⟩, rfl⟩
        exact ⟨hcs, by ring⟩
    · simp [hc]

/-- **A numeral is read as the number that its digits stand for.** -/
theorem value?_eq_some_iff (hbase : base ≤ 16) :
    value? base cs = some n ↔ cs ≠ [] ∧ AreDigits base cs ∧ n = number base cs := by
  rw [value?]
  split_ifs with hcs
  · simp [List.isEmpty_iff.mp hcs]
  · rw [extend?_eq_some_iff hbase, Nat.zero_mul, Nat.zero_add]
    simp [List.isEmpty_iff.not.mp hcs]

end WmConfig.Numeral
