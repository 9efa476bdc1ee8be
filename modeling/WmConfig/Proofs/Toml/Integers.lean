import Mathlib.Data.List.TakeWhile
import WmConfig.Proofs.Number.Digits
import WmConfig.Proofs.Toml.Spelling

/-! # Whole numbers as they are written

A whole number is written in decimal, with an optional sign and without a zero in front of other
digits, or behind `0x`, `0o` or `0b` in another base; single underscores may stand between its digits.
Such a word is read as its number if this has 64 bits, and is refused otherwise: it is no date form
and no floating-point number either (`IntegerLiteral.ofWord?`). -/

namespace WmConfig.Toml.Scalar

open Numeral

/-- Digits of the base as they are written, with single underscores between some of them, and the
digits alone. -/
inductive Grouped (base : Nat) : List Char → List Char → Prop
  | last {c : Char} (digit : digitValue c < base) : Grouped base [c] [c]
  | next {c : Char} {cs ds : List Char} (digit : digitValue c < base) (rest : Grouped base cs ds) :
      Grouped base (c :: cs) (c :: ds)
  | apart {c : Char} {cs ds : List Char} (digit : digitValue c < base) (rest : Grouped base cs ds) :
      Grouped base (c :: '_' :: cs) (c :: ds)

/-- **How a whole number is written.** -/
inductive IntegerLiteral : List Char → Int → Prop
  | unsigned {cs ds : List Char} (digits : Grouped 10 cs ds)
      (zero : ds.length = 1 ∨ ds.head? ≠ some '0') : IntegerLiteral cs (number 10 ds)
  | plus {cs ds : List Char} (digits : Grouped 10 cs ds)
      (zero : ds.length = 1 ∨ ds.head? ≠ some '0') : IntegerLiteral ('+' :: cs) (number 10 ds)
  | minus {cs ds : List Char} (digits : Grouped 10 cs ds)
      (zero : ds.length = 1 ∨ ds.head? ≠ some '0') : IntegerLiteral ('-' :: cs) (-number 10 ds)
  | based {letter : Char} {base : Nat} {cs ds : List Char}
      (radix : (letter, base) ∈ [('x', 16), ('o', 8), ('b', 2)]) (digits : Grouped base cs ds) :
      IntegerLiteral ('0' :: letter :: cs) (number base ds)

/-! ### Digits -/

namespace Grouped

variable {base : Nat} {cs ds : List Char}

theorem areDigits (h : Grouped base cs ds) : ds ≠ [] ∧ AreDigits base ds := by
  induction h with
  | last digit => exact ⟨List.cons_ne_nil _ _, List.forall_mem_singleton.mpr digit⟩
  | next digit _ ih | apart digit _ ih =>
    exact ⟨List.cons_ne_nil _ _, List.forall_mem_cons.mpr ⟨digit, ih.2⟩⟩

/-- A group starts with its first digit. -/
theorem exists_cons (h : Grouped base cs ds) :
    ∃ c cs' ds', cs = c :: cs' ∧ ds = c :: ds' ∧ digitValue c < base := by
  cases h with
  | last digit | next digit _ | apart digit _ => exact ⟨_, _, _, rfl, rfl, digit⟩

theorem mem (h : Grouped base cs ds) : ∀ c ∈ cs, digitValue c < base ∨ c = '_' := by
  induction h with
  | last digit => exact List.forall_mem_singleton.mpr (.inl digit)
  | next digit _ ih => exact List.forall_mem_cons.mpr ⟨.inl digit, ih⟩
  | apart digit _ ih =>
    exact List.forall_mem_cons.mpr ⟨.inl digit, List.forall_mem_cons.mpr ⟨.inr rfl, ih⟩⟩

/-- **The underscores are taken out.** -/
theorem ungroup? (hbase : base ≤ 16) {isDigit : Char → Bool}
    (hdigit : ∀ c, digitValue c < base → isDigit c = true) (h : Grouped base cs ds) :
    Scalar.ungroup? isDigit cs = some ds := by
  induction h with
  | last digit => rw [Scalar.ungroup?, if_pos (hdigit _ digit)]
  | next digit rest ih =>
    obtain ⟨c', cs', ds', rfl, rfl, digit'⟩ := rest.exists_cons
    rw [Scalar.ungroup?.eq_4 _ _ _ (by simp), if_pos (hdigit _ digit), ih, Option.map_some]
    intro rest' heq
    have hunder : digitValue '_' = 16 := by decide
    rw [(List.cons.inj heq).1, hunder] at digit'
    omega
  | apart digit _ ih => rw [Scalar.ungroup?, if_pos (hdigit _ digit), ih, Option.map_some]

end Grouped

theorem isSome_digitOf? {base : Nat} (hbase : base ≤ 16) {c : Char} (hc : digitValue c < base) :
    (digitOf? base c).isSome = true := by
  rw [digitOf?_eq hbase, if_pos hc]
  rfl

theorem isDigit_of_digitValue {c : Char} (hc : digitValue c < 10) : c.isDigit = true := by
  obtain ⟨d, hd⟩ := Option.isSome_iff_exists.mp (isSome_digitOf? (show 10 ≤ 16 by decide) hc)
  exact isDigit_of_digitOf? hd

theorem value?_of_areDigits {base : Nat} (hbase : base ≤ 16) {ds : List Char}
    (h : ds ≠ [] ∧ AreDigits base ds) : value? base ds = some (number base ds) :=
  (value?_eq_some_iff hbase).mpr ⟨h.1, h.2, rfl⟩

/-! ### The forms -/

/-- The number if it has 64 bits. -/
def word64? (n : Int) : Option Int :=
  if -0x8000000000000000 ≤ n ∧ n < 0x8000000000000000 then some n else none

section Decimal
variable {cs ds : List Char} (digits : Grouped 10 cs ds)
  (zero : ds.length = 1 ∨ ds.head? ≠ some '0')
include digits

/-- A decimal numeral starts with a digit, and holds digits and underscores only. -/
theorem Grouped.isDigit : (∃ c cs', cs = c :: cs' ∧ c.isDigit = true) ∧
    ∀ c ∈ cs, (c.isDigit || c == '_') = true := by
  constructor
  · obtain ⟨c, cs', -, rfl, -, hc⟩ := digits.exists_cons
    exact ⟨c, cs', rfl, isDigit_of_digitValue hc⟩
  · intro c hc
    rcases digits.mem c hc with hdigit | rfl
    · rw [isDigit_of_digitValue hdigit, Bool.true_or]
    · rfl

include zero

theorem wholeDigits?_grouped : wholeDigits? cs = some ds := by
  rw [wholeDigits?, digits.ungroup? (by decide) fun _ => isDigit_of_digitValue]
  exact Option.filter_some_eq_some.mpr (decide_eq_true zero)

/-- The digits of a decimal number, after its sign. -/
theorem decimal?_grouped {negative : Bool} {word : List Char}
    (hsign : Decimal.splitSign word = (negative, cs)) :
    decimal? word = some (if negative then -(number 10 ds : Int) else number 10 ds) := by
  simp only [decimal?, hsign, wholeDigits?_grouped digits zero, Option.bind_eq_bind,
    Option.bind_some, value?_of_areDigits (show 10 ≤ 16 by decide) digits.areDigits]
  cases negative <;> rfl

/-- A decimal number without a fraction or an exponent is no floating-point number. -/
theorem float?_grouped {negative : Bool} {word : List Char}
    (hsign : Decimal.splitSign word = (negative, cs)) : float? word = none := by
  obtain ⟨⟨c, cs', hcs, hc⟩, hall⟩ := digits.isDigit
  have hinf : cs ≠ "inf".toList := by
    rintro rfl
    obtain ⟨rfl, -⟩ := List.cons.inj hcs
    cases hc
  have hnan : cs ≠ "nan".toList := by
    rintro rfl
    obtain ⟨rfl, -⟩ := List.cons.inj hcs
    cases hc
  have hsplit : splitDigits cs = (cs, []) := by
    rw [splitDigits, List.takeWhile_eq_self_iff.mpr hall, List.dropWhile_eq_nil_iff.mpr hall]
  simp only [float?, hsign, if_neg hinf, if_neg hnan, decimalFloat?, hsplit,
    wholeDigits?_grouped digits zero, Option.bind_eq_bind, Option.bind_some]
  rfl

end Decimal

theorem integer?_of_decimal {cs : List Char} {n : Int}
    (h : ∀ letter ∈ ['x', 'o', 'b'], ∀ rest, cs ≠ '0' :: letter :: rest)
    (hdecimal : decimal? cs = some n) : integer? cs = word64? n := by
  rw [integer?.eq_4 cs (h 'x' (by decide)) (h 'o' (by decide)) (h 'b' (by decide)), hdecimal]
  simp only [Option.filter_some, decide_eq_true_eq, word64?]

theorem based?_grouped {base : Nat} (hbase : base ≤ 16) {cs ds : List Char}
    (digits : Grouped base cs ds) : based? base cs = some (number base ds : Int) := by
  rw [based?, digits.ungroup? hbase fun _ => isSome_digitOf? hbase]
  simp only [Option.bind_eq_bind, Option.bind_some, value?_of_areDigits hbase digits.areDigits]
  rfl

/-- Behind a digit there is no letter of another base. -/
theorem Grouped.ne_based {cs ds : List Char} (digits : Grouped 10 cs ds) :
    ∀ letter ∈ ['x', 'o', 'b'], ∀ rest, cs ≠ '0' :: letter :: rest := by
  rintro letter hletter rest rfl
  have hdigit := digits.mem letter (List.mem_cons_of_mem _ List.mem_cons_self)
  simp only [List.mem_cons, List.not_mem_nil, or_false] at hletter
  rcases hletter with rfl | rfl | rfl <;> exact absurd hdigit (by decide)

theorem ne_based_of_sign {sign : Char} (hsign : sign ≠ '0') (cs : List Char) :
    ∀ letter ∈ ['x', 'o', 'b'], ∀ rest, sign :: cs ≠ '0' :: letter :: rest :=
  fun _ _ _ heq => hsign (List.cons.inj heq).1

/-- A numeral behind a letter is no floating-point number. -/
theorem float?_based {letter : Char} (hletter : letter ∈ ['x', 'o', 'b']) (cs : List Char) :
    float? ('0' :: letter :: cs) = none := by
  simp only [List.mem_cons, List.not_mem_nil, or_false] at hletter
  rcases hletter with rfl | rfl | rfl <;> rfl

theorem integer?_based {letter : Char} {base : Nat} {cs ds : List Char}
    (radix : (letter, base) ∈ [('x', 16), ('o', 8), ('b', 2)]) (digits : Grouped base cs ds) :
    integer? ('0' :: letter :: cs) = word64? (number base ds) := by
  have hfilter : (some (number base ds : Int)).filter (fun n =>
      decide (-0x8000000000000000 ≤ n ∧ n < 0x8000000000000000)) = word64? (number base ds) := by
    simp only [Option.filter_some, decide_eq_true_eq, word64?]
  simp only [List.mem_cons, Prod.mk.injEq, List.not_mem_nil, or_false] at radix
  rcases radix with ⟨rfl, rfl⟩ | ⟨rfl, rfl⟩ | ⟨rfl, rfl⟩ <;>
    rw [integer?, based?_grouped (by decide) digits] <;> exact hfilter

/-- A word without hyphens and colons is no date form. -/
theorem whole?_eq_none {limits : Datetime.Limits} {word : List Char}
    (h : ∀ c ∈ word, c ≠ '-' ∧ c ≠ ':') : Datetime.whole? limits word = none := by
  rw [← List.takeWhile_append_dropWhile (p := Char.isDigit) (l := word)]
  refine Datetime.whole?_eq_none (fun c hc => List.mem_takeWhile_imp hc) fun c hc => ?_
  refine ⟨?_, h c ((List.dropWhile_sublist _).subset (List.mem_of_mem_head? hc))⟩
  have hhead := List.head?_dropWhile_not Char.isDigit word
  rw [hc] at hhead
  exact hhead

/-- A word that is no value of another kind. -/
theorem ofWord?_of_none {word : List Char} (htrue : word ≠ "true".toList)
    (hfalse : word ≠ "false".toList) (hdate : Datetime.whole? .value word = none)
    (hfloat : float? word = none) : ofWord? word = (integer? word).map .integer := by
  rw [ofWord?, if_neg htrue, if_neg hfalse, hdate, hfloat]
  cases integer? word <;> rfl

namespace IntegerLiteral

variable {word : List Char} {n : Int}

/-- A literal starts with a sign or a digit. -/
theorem exists_cons (h : IntegerLiteral word n) :
    ∃ c cs, word = c :: cs ∧ (c = '+' ∨ c = '-' ∨ c.isDigit = true) := by
  cases h with
  | unsigned digits zero =>
    obtain ⟨c, cs, rfl, hc⟩ := digits.isDigit.1
    exact ⟨c, cs, rfl, .inr (.inr hc)⟩
  | plus digits zero => exact ⟨_, _, rfl, .inl rfl⟩
  | minus digits zero => exact ⟨_, _, rfl, .inr (.inl rfl)⟩
  | based radix digits => exact ⟨_, _, rfl, .inr (.inr rfl)⟩

/-- What a literal may hold, apart from a minus sign in front. -/
theorem mem (h : IntegerLiteral word n) :
    ∀ c ∈ word, digitValue c < 16 ∨ c ∈ ['_', '+', '-', 'x', 'o'] := by
  have hgrouped : ∀ {base cs ds}, base ≤ 16 → Grouped base cs ds →
      ∀ c ∈ cs, digitValue c < 16 ∨ c ∈ ['_', '+', '-', 'x', 'o'] := by
    intro base cs ds hbase digits c hc
    rcases digits.mem c hc with hdigit | rfl
    · exact .inl (Nat.lt_of_lt_of_le hdigit hbase)
    · exact .inr (by decide)
  cases h with
  | unsigned digits _ => exact hgrouped (by decide) digits
  | plus digits _ =>
    exact List.forall_mem_cons.mpr ⟨.inr (by decide), hgrouped (by decide) digits⟩
  | minus digits _ =>
    exact List.forall_mem_cons.mpr ⟨.inr (by decide), hgrouped (by decide) digits⟩
  | based radix digits =>
    simp only [List.mem_cons, Prod.mk.injEq, List.not_mem_nil, or_false] at radix
    rcases radix with ⟨rfl, rfl⟩ | ⟨rfl, rfl⟩ | ⟨rfl, rfl⟩ <;>
      exact List.forall_mem_cons.mpr ⟨.inl (by decide), List.forall_mem_cons.mpr
        ⟨by decide, hgrouped (by decide) digits⟩⟩

theorem whole? (h : IntegerLiteral word n) : Datetime.whole? .value word = none := by
  have hdigits : ∀ {base cs ds}, base ≤ 16 → Grouped base cs ds →
      ∀ c ∈ cs, c ≠ '-' ∧ c ≠ ':' := by
    intro base cs ds hbase digits c hc
    have hmem := (digits.mem c hc).imp_left fun hdigit => Nat.lt_of_lt_of_le hdigit hbase
    constructor
    · rintro rfl
      exact absurd hmem (by decide)
    · rintro rfl
      exact absurd hmem (by decide)
  cases h with
  | unsigned digits _ => exact whole?_eq_none (hdigits (by decide) digits)
  | plus digits _ =>
    exact whole?_eq_none (List.forall_mem_cons.mpr ⟨by decide, hdigits (by decide) digits⟩)
  | minus digits _ => exact Datetime.whole?_minus _ _
  | based radix digits =>
    simp only [List.mem_cons, Prod.mk.injEq, List.not_mem_nil, or_false] at radix
    rcases radix with ⟨rfl, rfl⟩ | ⟨rfl, rfl⟩ | ⟨rfl, rfl⟩ <;>
      exact whole?_eq_none (List.forall_mem_cons.mpr ⟨by decide, List.forall_mem_cons.mpr
        ⟨by decide, hdigits (by decide) digits⟩⟩)

/-- **A literal is read as its number** if this has 64 bits, and refused otherwise. -/
theorem ofWord? (h : IntegerLiteral word n) : Scalar.ofWord? word = (word64? n).map .integer := by
  have hnot : ∀ {c : Char} {cs : List Char}, ¬ (c = '+' ∨ c = '-' ∨ c.isDigit = true) →
      word ≠ c :: cs := by
    rintro c cs hc rfl
    obtain ⟨c', cs', hcs, hc'⟩ := h.exists_cons
    exact hc ((List.cons.inj hcs).1 ▸ hc')
  suffices hread : float? word = none ∧ integer? word = word64? n by
    rw [ofWord?_of_none (hnot (by decide)) (hnot (by decide)) h.whole? hread.1, hread.2]
  cases h with
  | unsigned digits zero =>
    obtain ⟨c, cs, rfl, hc⟩ := digits.isDigit.1
    have hsign : Decimal.splitSign (c :: cs) = (false, c :: cs) :=
      splitSign_digits fun c' hc' => Option.some.inj hc' ▸ hc
    exact ⟨float?_grouped digits zero hsign,
      integer?_of_decimal digits.ne_based (decimal?_grouped digits zero hsign)⟩
  | plus digits zero =>
    have hsign : ∀ cs, Decimal.splitSign ('+' :: cs) = (false, cs) := fun _ => rfl
    exact ⟨float?_grouped digits zero (hsign _),
      integer?_of_decimal (ne_based_of_sign (by decide) _)
        (decimal?_grouped digits zero (hsign _))⟩
  | minus digits zero =>
    have hsign : ∀ cs, Decimal.splitSign ('-' :: cs) = (true, cs) := fun _ => rfl
    exact ⟨float?_grouped digits zero (hsign _),
      integer?_of_decimal (ne_based_of_sign (by decide) _)
        (decimal?_grouped digits zero (hsign _))⟩
  | based radix digits =>
    refine ⟨float?_based ?_ _, integer?_based radix digits⟩
    exact List.mem_map_of_mem (f := Prod.fst) radix

end IntegerLiteral

end WmConfig.Toml.Scalar
