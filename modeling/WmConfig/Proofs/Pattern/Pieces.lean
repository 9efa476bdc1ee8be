import Mathlib.Algebra.BigOperators.Group.List.Basic
import Mathlib.Algebra.Order.Ring.Nat
import Mathlib.Data.List.Induction
import Mathlib.Logic.Relation
import WmConfig.Pattern.Search

/-! # The pieces that an expression matches

An expression matches pieces of a text, each between what stands before it and what stands after it
(`Regex.pieces`). Pieces one after the other are a product of sets of pieces, so that a number of
them in a row is a power.

A text is searched by rows of bits. The rows of an expression tabulate its pieces
(`tabulates_rows`): bit `k` of row `i` is set iff the `k` characters from place `i` on are a piece
there. Hence the search succeeds iff some piece of the text matches (`isFoundIn_iff`). -/

namespace WmConfig

/-- A set of pieces of texts, each with the text before it and the text after it. -/
def Pieces : Type := List Char → List Char → List Char → Prop

namespace Pieces

variable {L M : Pieces} {before piece after text : List Char}

/-- The empty piece. -/
instance : One Pieces := ⟨fun _ piece _ => piece = []⟩

/-- A piece and then a second one. -/
instance : Mul Pieces := ⟨fun L M before piece after => ∃ first second,
  piece = first ++ second ∧ L before first (second ++ after) ∧ M (before ++ first) second after⟩

/-- A piece of either set. -/
instance : Union Pieces := ⟨fun L M before piece after =>
  L before piece after ∨ M before piece after⟩

theorem mul_iff : (L * M) before piece after ↔ ∃ first second,
    piece = first ++ second ∧ L before first (second ++ after) ∧ M (before ++ first) second after :=
  Iff.rfl

@[ext] theorem ext (h : ∀ before piece after, L before piece after ↔ M before piece after) :
    L = M :=
  funext fun b => funext fun p => funext fun a => propext (h b p a)

instance : Monoid Pieces where
  mul_assoc L M N := by
    ext before piece after
    constructor
    · rintro ⟨_, third, rfl, ⟨first, second, rfl, hfirst, hsecond⟩, hthird⟩
      rw [← List.append_assoc] at hthird
      exact ⟨first, second ++ third, List.append_assoc .., by simpa using hfirst,
        second, third, rfl, hsecond, hthird⟩
    · rintro ⟨first, _, rfl, hfirst, second, third, rfl, hsecond, hthird⟩
      rw [List.append_assoc] at hthird
      exact ⟨first ++ second, third, (List.append_assoc ..).symm,
        ⟨first, second, rfl, by simpa using hfirst, hsecond⟩, hthird⟩
  one_mul L := by
    ext before piece after
    constructor
    · rintro ⟨_, second, rfl, rfl, hsecond⟩
      simpa using hsecond
    · intro h
      exact ⟨[], piece, rfl, rfl, by simpa using h⟩
  mul_one L := by
    ext before piece after
    constructor
    · rintro ⟨first, _, rfl, hfirst, rfl⟩
      simpa using hfirst
    · intro h
      exact ⟨piece, [], (List.append_nil _).symm, h, rfl⟩

/-- Any number of pieces in a row. -/
def star (L : Pieces) : Pieces := fun before piece after => ∃ n, (L ^ n) before piece after

/-! ### Places -/

/-- Whether a piece of the text reaches from place `i` to place `j`. -/
def Spans (L : Pieces) (text : List Char) (i j : ℕ) : Prop :=
  ∃ before piece after, text = before ++ piece ++ after ∧ i = before.length ∧
    j = before.length + piece.length ∧ L before piece after

theorem Spans.le {i j : ℕ} (h : L.Spans text i j) : i ≤ j ∧ j ≤ text.length := by
  obtain ⟨before, piece, after, rfl, rfl, rfl, -⟩ := h
  simp

theorem spans_one {i j : ℕ} : (1 : Pieces).Spans text i j ↔ i = j ∧ j ≤ text.length := by
  constructor
  · intro h
    obtain ⟨before, _, after, -, rfl, rfl, rfl⟩ := id h
    exact ⟨rfl, h.le.2⟩
  · rintro ⟨rfl, hi⟩
    exact ⟨text.take i, [], text.drop i, by simp, by simp [hi], by simp [hi], rfl⟩

theorem spans_mul {i j : ℕ} :
    (L * M).Spans text i j ↔ ∃ k, L.Spans text i k ∧ M.Spans text k j := by
  constructor
  · rintro ⟨before, _, after, rfl, rfl, rfl, first, second, rfl, hfirst, hsecond⟩
    exact ⟨before.length + first.length,
      ⟨before, first, second ++ after, by simp, rfl, rfl, hfirst⟩,
      ⟨before ++ first, second, after, by simp, by simp, by simp [Nat.add_assoc], hsecond⟩⟩
  · rintro ⟨k, ⟨before, first, rest, htext, rfl, rfl, hfirst⟩, before', second, after, htext', hk,
      rfl, hsecond⟩
    rw [htext, List.append_assoc before'] at htext'
    obtain ⟨rfl, rfl⟩ := List.append_inj htext' (by simpa using hk)
    exact ⟨before, first ++ second, after, by simp [htext], rfl, by simp [Nat.add_assoc], first,
      second, rfl, hfirst, hsecond⟩

theorem spans_union {i j : ℕ} :
    (L ∪ M).Spans text i j ↔ L.Spans text i j ∨ M.Spans text i j := by
  constructor
  · rintro ⟨before, piece, after, htext, hi, hj, h | h⟩
    · exact Or.inl ⟨before, piece, after, htext, hi, hj, h⟩
    · exact Or.inr ⟨before, piece, after, htext, hi, hj, h⟩
  · rintro (⟨before, piece, after, htext, hi, hj, h⟩ | ⟨before, piece, after, htext, hi, hj, h⟩)
    · exact ⟨before, piece, after, htext, hi, hj, Or.inl h⟩
    · exact ⟨before, piece, after, htext, hi, hj, Or.inr h⟩

theorem spans_star {i j : ℕ} :
    (star L).Spans text i j ↔ ∃ n, (L ^ n).Spans text i j := by
  constructor
  · rintro ⟨before, piece, after, htext, hi, hj, n, h⟩
    exact ⟨n, before, piece, after, htext, hi, hj, h⟩
  · rintro ⟨n, before, piece, after, htext, hi, hj, h⟩
    exact ⟨before, piece, after, htext, hi, hj, n, h⟩

/-- Any number of pieces in a row go from place to place. -/
theorem spans_star_iff_reflTransGen {i j : ℕ} :
    (star L).Spans text i j ↔ Relation.ReflTransGen (L.Spans text) i j ∧ j ≤ text.length := by
  rw [spans_star]
  constructor
  · rintro ⟨n, h⟩
    refine ⟨?_, h.le.2⟩
    induction n generalizing i with
    | zero => rw [(spans_one.mp h).1]
    | succ n ih =>
      rw [pow_succ', spans_mul] at h
      obtain ⟨k, hfirst, hrest⟩ := h
      exact .head hfirst (ih hrest)
  · rintro ⟨h, hj⟩
    induction h using Relation.ReflTransGen.head_induction_on with
    | refl => exact ⟨0, spans_one.mpr ⟨rfl, hj⟩⟩
    | head hfirst _ ih =>
      obtain ⟨n, hrest⟩ := ih
      exact ⟨n + 1, by rw [pow_succ', spans_mul]; exact ⟨_, hfirst, hrest⟩⟩

end Pieces

namespace Regex

/-- The pieces that an expression matches. -/
def pieces : Regex → Pieces
  | empty => 1
  | look l => fun before piece after => piece = [] ∧ l.holds ⟨before.getLast?, after.head?⟩ = true
  | set s => fun _ piece _ => ∃ c, piece = [c] ∧ s.contains c = true
  | concat r s => r.pieces * s.pieces
  | either r s => r.pieces ∪ s.pieces
  | times r min none => r.pieces ^ min * r.pieces.star
  | times r min (some max) => r.pieces ^ min * (r.pieces ∪ 1) ^ (max - min)
  | capture r => r.pieces

/-! ### Rows -/

/-- Whether bit `j - i` of row `i` is set. -/
def Reaches (rows : List ℕ) (i j : ℕ) : Prop :=
  i ≤ j ∧ (rows.getD i 0).testBit (j - i) = true

theorem Reaches.lt_length {rows : List ℕ} {i j : ℕ} (h : Reaches rows i j) : i < rows.length := by
  by_contra hi
  have hbit := h.2
  rw [List.getD_eq_getElem?_getD, List.getElem?_eq_none (not_lt.mp hi), Option.getD_none,
    Nat.zero_testBit] at hbit
  cases hbit

theorem testBit_reach (row : ℕ) (rows : List ℕ) (k : ℕ) :
    (reach row rows).testBit k = true ↔
      ∃ j ≤ k, row.testBit j = true ∧ (rows.getD j 0).testBit (k - j) = true := by
  induction rows generalizing row k with
  | nil => simp [reach]
  | cons next rows ih =>
    unfold reach
    by_cases hrow : row = 0
    · simp [hrow]
    rw [if_neg hrow, Nat.testBit_or, Bool.or_eq_true, Nat.testBit_shiftLeft, Bool.and_eq_true,
      decide_eq_true_eq, ih]
    constructor
    · rintro (h | ⟨hk, j, hj, hrow, hnext⟩)
      · by_cases hzero : row.testBit 0 = true
        · rw [if_pos hzero] at h
          exact ⟨0, Nat.zero_le _, hzero, by simpa using h⟩
        · simp [hzero] at h
      · rw [Nat.testBit_shiftRight, Nat.add_comm] at hrow
        exact ⟨j + 1, by omega, hrow, by rwa [List.getD_cons_succ, Nat.add_comm, ← Nat.sub_sub]⟩
    · rintro ⟨_ | j, hj, hrow, hnext⟩
      · exact Or.inl (by simpa [hrow] using hnext)
      · refine Or.inr ⟨by omega, j, by omega, ?_, ?_⟩
        · rwa [Nat.testBit_shiftRight, Nat.add_comm]
        · rwa [List.getD_cons_succ, Nat.add_comm, ← Nat.sub_sub] at hnext

theorem getD_andThen (rs ss : List ℕ) (h : rs.length = ss.length) (i : ℕ) :
    (andThen rs ss).getD i 0 = reach (rs.getD i 0) (ss.drop i) := by
  induction rs generalizing ss i with
  | nil =>
    obtain rfl := List.eq_nil_of_length_eq_zero h.symm
    simp [andThen, reach]
  | cons row rows ih =>
    obtain ⟨next, nexts, rfl⟩ := List.exists_cons_of_length_eq_add_one h.symm
    cases i with
    | zero => rfl
    | succ i => simpa [andThen] using ih nexts (by simpa using h) i

theorem reaches_andThen {rs ss : List ℕ} (h : rs.length = ss.length) {i j : ℕ} :
    Reaches (andThen rs ss) i j ↔ ∃ k, Reaches rs i k ∧ Reaches ss k j := by
  have hdrop : ∀ k, (ss.drop i).getD k 0 = ss.getD (i + k) 0 := by
    intro k
    rw [List.getD_eq_getElem?_getD, List.getD_eq_getElem?_getD, List.getElem?_drop]
  unfold Reaches
  rw [getD_andThen rs ss h, testBit_reach]
  constructor
  · rintro ⟨hij, k, hk, hrow, hnext⟩
    rw [hdrop] at hnext
    exact ⟨i + k, ⟨by omega, by simpa using hrow⟩, by omega, by rwa [← Nat.sub_sub]⟩
  · rintro ⟨k, ⟨hik, hrow⟩, hkj, hnext⟩
    refine ⟨by omega, k - i, by omega, hrow, ?_⟩
    rw [hdrop, show i + (k - i) = k by omega, show j - i - (k - i) = j - k by omega]
    exact hnext

theorem length_andThen (rs ss : List ℕ) (h : rs.length = ss.length) :
    (andThen rs ss).length = rs.length := by
  induction rs generalizing ss with
  | nil => rfl
  | cons row rows ih =>
    obtain ⟨next, nexts, rfl⟩ := List.exists_cons_of_length_eq_add_one h.symm
    simpa [andThen] using ih nexts (by simpa using h)

theorem length_closure (rows : List ℕ) : (closure rows).length = rows.length := by
  induction rows with
  | nil => rfl
  | cons row rows ih => simp [closure, ih]

theorem getD_closure {rows : List ℕ} {i : ℕ} (hi : i < rows.length) :
    (closure rows).getD i 0 =
      1 ||| (reach (rows.getD i 0 >>> 1) ((closure rows).drop (i + 1))) <<< 1 := by
  induction rows generalizing i with
  | nil => simp at hi
  | cons row rows ih =>
    cases i with
    | zero => rfl
    | succ i => exact ih (by simpa using hi)

/-- Of the pieces in a row, either there is none, or the first one that is not empty is followed by
the rest. -/
theorem reaches_closure_step {rows : List ℕ} {i j : ℕ} :
    Reaches (closure rows) i j ↔ i < rows.length ∧
      (j = i ∨ ∃ k, i < k ∧ Reaches rows i k ∧ Reaches (closure rows) k j) := by
  constructor
  · intro h
    have hi : i < rows.length := length_closure rows ▸ h.lt_length
    obtain ⟨hij, h⟩ := h
    refine ⟨hi, ?_⟩
    rw [getD_closure hi, Nat.testBit_or, Bool.or_eq_true, Nat.testBit_one_eq_true_iff_self_eq_zero,
      Nat.testBit_shiftLeft, Bool.and_eq_true, decide_eq_true_eq, testBit_reach] at h
    rcases h with h | ⟨hpos, k, hk, hrow, hnext⟩
    · exact Or.inl (by omega)
    · rw [Nat.testBit_shiftRight] at hrow
      rw [List.getD_eq_getElem?_getD, List.getElem?_drop, ← List.getD_eq_getElem?_getD] at hnext
      refine Or.inr ⟨i + 1 + k, by omega, ⟨by omega, ?_⟩, by omega, ?_⟩
      · rwa [show i + 1 + k - i = 1 + k by omega]
      · rwa [show j - (i + 1 + k) = j - i - 1 - k by omega]
  · rintro ⟨hi, h⟩
    have hij : i ≤ j := by
      rcases h with rfl | ⟨k, hik, -, hkj, -⟩
      · exact le_rfl
      · omega
    refine ⟨hij, ?_⟩
    rw [getD_closure hi, Nat.testBit_or, Bool.or_eq_true, Nat.testBit_one_eq_true_iff_self_eq_zero,
      Nat.testBit_shiftLeft, Bool.and_eq_true, decide_eq_true_eq, testBit_reach]
    rcases h with rfl | ⟨k, hik, ⟨-, hrow⟩, hkj, hnext⟩
    · exact Or.inl (Nat.sub_self _)
    · refine Or.inr ⟨by omega, k - i - 1, by omega, ?_, ?_⟩
      · rwa [Nat.testBit_shiftRight, show 1 + (k - i - 1) = k - i by omega]
      · rw [List.getD_eq_getElem?_getD, List.getElem?_drop, ← List.getD_eq_getElem?_getD,
          show i + 1 + (k - i - 1) = k by omega, show j - i - 1 - (k - i - 1) = j - k by omega]
        exact hnext

theorem reaches_closure {rows : List ℕ} {i j : ℕ} :
    Reaches (closure rows) i j ↔ Relation.ReflTransGen (Reaches rows) i j ∧ j < rows.length := by
  constructor
  · -- The first piece that counts is not empty, so what is left of the text gets shorter.
    intro h
    induction hn : j - i using Nat.strong_induction_on generalizing i with
    | h n ih =>
      obtain ⟨hi, rfl | ⟨k, hik, hfirst, hrest⟩⟩ := reaches_closure_step.mp h
      · exact ⟨.refl, hi⟩
      · have hkj := hrest.1
        obtain ⟨hsteps, hj⟩ := ih (j - k) (by omega) hrest rfl
        exact ⟨.head hfirst hsteps, hj⟩
  · rintro ⟨h, hj⟩
    induction h using Relation.ReflTransGen.head_induction_on with
    | refl => exact reaches_closure_step.mpr ⟨hj, Or.inl rfl⟩
    | @head i k hfirst _ ih =>
      rcases Nat.eq_or_lt_of_le hfirst.1 with rfl | hik
      · exact ih
      · exact reaches_closure_step.mpr ⟨hfirst.lt_length, Or.inr ⟨k, hik, hfirst, ih⟩⟩

/-! ### Rows of pieces -/

/-- Bit `k` of row `i` is set iff the `k` characters from place `i` on are a piece there. -/
structure Tabulates (text : List Char) (rows : List ℕ) (L : Pieces) : Prop where
  length_eq : rows.length = text.length + 1
  reaches_iff : ∀ i j, Reaches rows i j ↔ L.Spans text i j

section Tables
variable {text : List Char} {rs ss : List ℕ} {L M : Pieces}

theorem Tabulates.mul (hr : Tabulates text rs L) (hs : Tabulates text ss M) :
    Tabulates text (andThen rs ss) (L * M) := by
  have hlength : rs.length = ss.length := hr.length_eq.trans hs.length_eq.symm
  refine ⟨(length_andThen rs ss hlength).trans hr.length_eq, fun i j => ?_⟩
  rw [reaches_andThen hlength, Pieces.spans_mul]
  simp only [hr.reaches_iff, hs.reaches_iff]

theorem getD_stay (rows : List ℕ) (i : ℕ) :
    (stay rows).getD i 0 = if i < rows.length then 1 else 0 := by
  unfold stay
  by_cases hi : i < rows.length <;> simp [hi]

theorem Tabulates.one (hr : Tabulates text rs L) : Tabulates text (stay rs) 1 := by
  refine ⟨(List.length_map _).trans hr.length_eq, fun i j => ?_⟩
  unfold Reaches
  rw [Pieces.spans_one, getD_stay, hr.length_eq]
  by_cases hi : i < text.length + 1
  · rw [if_pos hi, Nat.testBit_one_eq_true_iff_self_eq_zero]
    omega
  · simp [hi]
    omega

theorem reaches_zipWith_or (h : rs.length = ss.length) {i j : ℕ} :
    Reaches (List.zipWith (· ||| ·) rs ss) i j ↔ Reaches rs i j ∨ Reaches ss i j := by
  have hgetD : (List.zipWith (· ||| ·) rs ss).getD i 0 = rs.getD i 0 ||| ss.getD i 0 := by
    by_cases hi : i < rs.length
    · have hi' : i < ss.length := h ▸ hi
      simp [hi, hi']
    · have hi' : ¬ i < ss.length := h ▸ hi
      simp [hi, hi']
  unfold Reaches
  rw [hgetD, Nat.testBit_or, Bool.or_eq_true, and_or_left]

theorem Tabulates.union (hr : Tabulates text rs L) (hs : Tabulates text ss M) :
    Tabulates text (List.zipWith (· ||| ·) rs ss) (L ∪ M) := by
  have hlength : rs.length = ss.length := hr.length_eq.trans hs.length_eq.symm
  refine ⟨by rw [List.length_zipWith, ← hlength, Nat.min_self, hr.length_eq], fun i j => ?_⟩
  rw [reaches_zipWith_or hlength, Pieces.spans_union, hr.reaches_iff, hs.reaches_iff]

theorem optional_eq (rows : List ℕ) : optional rows = List.zipWith (· ||| ·) rows (stay rows) := by
  unfold optional stay
  rw [List.zipWith_map_right, List.zipWith_self]

theorem Tabulates.optional (hr : Tabulates text rs L) : Tabulates text (optional rs) (L ∪ 1) := by
  rw [optional_eq]
  exact hr.union hr.one

theorem Tabulates.pow (hr : Tabulates text rs L) (n : ℕ) : Tabulates text (power rs n) (L ^ n) := by
  induction n using power.induct rs with
  | case1 =>
    rw [power, if_pos rfl, pow_zero]
    exact hr.one
  | case2 n hn heven ih =>
    rw [power, if_neg hn, if_pos heven, show L ^ n = L ^ (n / 2) * L ^ (n / 2) by
      rw [← pow_add]; congr 1; omega]
    exact ih.mul ih
  | case3 n hn hodd ih =>
    rw [power, if_neg hn, if_neg hodd, show L ^ n = L * (L ^ (n / 2) * L ^ (n / 2)) by
      rw [← pow_add, ← pow_succ']; congr 1; omega]
    exact hr.mul (ih.mul ih)

theorem Tabulates.star (hr : Tabulates text rs L) : Tabulates text (closure rs) L.star := by
  refine ⟨(length_closure rs).trans hr.length_eq, fun i j => ?_⟩
  have hreaches : Reaches rs = L.Spans text :=
    funext fun i => funext fun j => propext (hr.reaches_iff i j)
  rw [reaches_closure, Pieces.spans_star_iff_reflTransGen, hreaches, hr.length_eq,
    Nat.lt_add_one_iff]

end Tables

/-! ### Gaps -/

theorem getElem?_gaps (before : Option Char) (text : List Char) (i : ℕ) :
    (Gap.all before text)[i]? =
      if i ≤ text.length then some ⟨if i = 0 then before else text[i - 1]?, text[i]?⟩
      else none := by
  induction text generalizing before i with
  | nil => cases i <;> simp [Gap.all]
  | cons c text ih =>
    cases i with
    | zero => simp [Gap.all]
    | succ i => cases i <;> simp [Gap.all, ih]

theorem length_gaps (before : Option Char) (text : List Char) :
    (Gap.all before text).length = text.length + 1 := by
  induction text generalizing before with
  | nil => rfl
  | cons c text ih => simp [Gap.all, ih]

/-- The gap at a place, by what stands before it and after it. -/
theorem getElem?_gaps_append (before after : List Char) :
    (Gap.all none (before ++ after))[before.length]? = some ⟨before.getLast?, after.head?⟩ := by
  rw [getElem?_gaps, if_pos (by simp)]
  cases before using List.reverseRecOn with
  | nil => simp [List.head?_eq_getElem?]
  | append_singleton before c =>
    have hafter : (before ++ c :: after)[before.length + 1]? = after.head? := by
      rw [List.getElem?_append_right (Nat.le_succ _)]
      simp [List.head?_eq_getElem?]
    simpa using hafter

/-- A row that depends on the gap alone and has a single bit at most. -/
theorem tabulates_map {text : List Char} {f : Gap → ℕ} {L : Pieces} (h : ∀ before after, text =
    before ++ after → ∀ k, (f ⟨before.getLast?, after.head?⟩).testBit k = true ↔
      L.Spans text before.length (before.length + k)) :
    Tabulates text ((Gap.all none text).map f) L := by
  refine ⟨by rw [List.length_map, length_gaps], fun i j => ?_⟩
  by_cases hi : i ≤ text.length
  · obtain ⟨before, after, rfl, rfl⟩ : ∃ before after, text = before ++ after ∧ i = before.length :=
      ⟨text.take i, text.drop i, by simp, by simp [hi]⟩
    unfold Reaches
    rw [List.getD_eq_getElem?_getD, List.getElem?_map, getElem?_gaps_append, Option.map_some,
      Option.getD_some, h before after rfl]
    constructor
    · rintro ⟨hij, hspans⟩
      rwa [Nat.add_sub_cancel' hij] at hspans
    · intro hspans
      exact ⟨hspans.le.1, by rwa [Nat.add_sub_cancel' hspans.le.1]⟩
  · refine iff_of_false (fun hreaches => hi ?_) (fun hspans => hi ?_)
    · have := hreaches.lt_length
      rw [List.length_map, length_gaps] at this
      omega
    · exact hspans.le.1.trans hspans.le.2

theorem tabulates_empty (text : List Char) :
    Tabulates text ((Gap.all none text).map fun _ => 1) 1 := by
  refine tabulates_map fun before after htext k => ?_
  rw [Pieces.spans_one, Nat.testBit_one_eq_true_iff_self_eq_zero, htext, List.length_append]
  omega

theorem tabulates_look (l : Look) (text : List Char) :
    Tabulates text ((Gap.all none text).map fun gap => if l.holds gap then 1 else 0)
      (look l).pieces := by
  refine tabulates_map fun before after htext k => ?_
  constructor
  · intro hbit
    by_cases hholds : l.holds ⟨before.getLast?, after.head?⟩ = true
    · rw [if_pos hholds, Nat.testBit_one_eq_true_iff_self_eq_zero] at hbit
      exact ⟨before, [], after, by simp [htext], rfl, by simp [hbit], rfl, hholds⟩
    · simp [hholds] at hbit
  · rintro ⟨before', _, after', htext', hi, hj, rfl, hholds⟩
    rw [htext, List.append_nil] at htext'
    obtain ⟨rfl, rfl⟩ := List.append_inj htext' hi
    rw [if_pos hholds, Nat.testBit_one_eq_true_iff_self_eq_zero]
    simpa using hj

theorem tabulates_set (s : CharSet) (text : List Char) :
    Tabulates text ((Gap.all none text).map fun gap => if gap.after.any s.contains then 2 else 0)
      (set s).pieces := by
  have htwo : ∀ k, (2 : ℕ).testBit k = true ↔ k = 1 := fun k => by
    rw [show (2 : ℕ) = 2 ^ 1 from rfl, Nat.testBit_two_pow, decide_eq_true_eq, eq_comm]
  refine tabulates_map fun before after htext k => ?_
  constructor
  · intro hbit
    by_cases hany : after.head?.any s.contains = true
    · rw [if_pos hany, htwo] at hbit
      obtain ⟨c, hc, hmem⟩ := (Option.any_eq_true _ _).mp hany
      obtain ⟨rest, rfl⟩ := List.head?_eq_some_iff.mp hc
      exact ⟨before, [c], rest, by simp [htext], rfl, by simp [hbit], c, rfl, hmem⟩
    · simp [hany] at hbit
  · rintro ⟨before', _, after', htext', hi, hj, c, rfl, hmem⟩
    rw [htext, List.append_assoc] at htext'
    obtain ⟨rfl, rfl⟩ := List.append_inj htext' hi
    have hany : ([c] ++ after').head?.any s.contains = true := by simpa using hmem
    rw [if_pos hany, htwo]
    simpa using hj

/-- **The rows of an expression tabulate its pieces.** -/
theorem tabulates_rows (r : Regex) (text : List Char) :
    Tabulates text (r.rows (Gap.all none text)) r.pieces := by
  induction r with
  | empty => exact tabulates_empty text
  | look l => exact tabulates_look l text
  | set s => exact tabulates_set s text
  | concat r s ihr ihs => exact ihr.mul ihs
  | either r s ihr ihs => exact ihr.union ihs
  | times r min max ih =>
    cases max with
    | none => exact (ih.pow min).mul ih.star
    | some max => exact (ih.pow min).mul (ih.optional.pow (max - min))
  | capture r ih => exact ih

/-- **The search succeeds iff some piece of the text matches.** -/
theorem isFoundIn_iff (r : Regex) (text : List Char) :
    r.isFoundIn text = true ↔
      ∃ before piece after, text = before ++ piece ++ after ∧ r.pieces before piece after := by
  have htable := tabulates_rows r text
  unfold isFoundIn
  rw [List.any_eq_true]
  constructor
  · rintro ⟨row, hrow, hne⟩
    obtain ⟨i, hi⟩ := List.mem_iff_getElem?.mp hrow
    obtain ⟨k, hk⟩ := Nat.exists_testBit_of_ne_zero (bne_iff_ne.mp hne)
    have hreaches : Reaches (r.rows (Gap.all none text)) i (i + k) :=
      ⟨Nat.le_add_right _ _, by rwa [List.getD_eq_getElem?_getD, hi, Nat.add_sub_cancel_left]⟩
    obtain ⟨before, piece, after, htext, -, -, h⟩ := (htable.reaches_iff _ _).mp hreaches
    exact ⟨before, piece, after, htext, h⟩
  · rintro ⟨before, piece, after, htext, h⟩
    obtain hreaches := (htable.reaches_iff _ _).mpr ⟨before, piece, after, htext, rfl, rfl, h⟩
    have hbit := hreaches.2
    refine ⟨_, List.getElem_mem hreaches.lt_length, bne_iff_ne.mpr fun hzero => ?_⟩
    rw [List.getD_eq_getElem?_getD, List.getElem?_eq_getElem hreaches.lt_length, Option.getD_some,
      hzero, Nat.zero_testBit] at hbit
    cases hbit

end Regex

end WmConfig
