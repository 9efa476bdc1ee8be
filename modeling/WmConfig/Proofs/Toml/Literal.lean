import WmConfig.Proofs.Number.Exact
import WmConfig.Proofs.Toml.WrittenDrafts

/-! # What can be written

Every share of the master area has a literal that stands for exactly this number: its significand
in decimal, scaled by a power of ten (`Scalar.exists_literal`). With it, and with a spelling for
every text, all blocks of such values can be written (`exists_written`). -/

namespace WmConfig.Toml

/-! ### Floating-point literals -/

namespace Scalar

/-- Digits, and a power of ten after the letter `e`. -/
def literal (n k : Nat) : List Char := Nat.toDigits 10 n ++ 'e' :: '-' :: Nat.toDigits 10 k

theorem isWordChar_literal (n k : Nat) : ∀ c ∈ literal n k, isWordChar c = true := by
  simp only [literal, List.forall_mem_append, List.forall_mem_cons]
  exact ⟨fun c hc => isWordChar_of_isDigit (isDigit_toDigits hc), by decide, by decide,
    fun c hc => isWordChar_of_isDigit (isDigit_toDigits hc)⟩

theorem isDigit_head?_literal {n k : Nat} {c : Char} (hc : (literal n k).head? = some c) :
    c.isDigit = true := by
  rw [literal, List.head?_append_of_ne_nil _ Nat.toDigits_ne_nil] at hc
  exact isDigit_head?_toDigits hc

/-- A letter among digits. -/
theorem ungroup?_letter : ∀ {ds : List Char}, (∀ c ∈ ds, c.isDigit = true) → ∀ cs : List Char,
    ungroup? Char.isDigit (ds ++ 'e' :: cs) = none
  | [], _, cs => by
    rw [List.nil_append, ungroup?.eq_def]
    split
    · rfl
    · next heq =>
      rw [← (List.cons.inj heq).1]
      rfl
    · next heq =>
      rw [← (List.cons.inj heq).1]
      rfl
    · next heq =>
      rw [← (List.cons.inj heq).1]
      rfl
  | d :: ds, hds, cs => by
    have ih := ungroup?_letter (fun c hc => hds c (List.mem_cons_of_mem _ hc)) cs
    have hunder : ∀ rest, ds ++ 'e' :: cs ≠ '_' :: rest := by
      intro rest heq
      cases ds with
      | nil => exact absurd (List.cons.inj heq).1 (by decide)
      | cons d' ds =>
        have hd' := hds d' (by simp)
        rw [(List.cons.inj heq).1] at hd'
        exact absurd hd' (by decide)
    rw [List.cons_append, ungroup?.eq_4 _ _ _ (by simp) hunder, ih]
    split_ifs <;> rfl

theorem integer?_literal {n : Nat} (hn : 0 < n) (k : Nat) : integer? (literal n k) = none := by
  have hwhole : wholeDigits? (literal n k) = none := by
    rw [wholeDigits?, literal, ungroup?_letter fun _ => isDigit_toDigits]
    rfl
  have hdecimal : decimal? (literal n k) = none := by
    simp only [decimal?, splitSign_digits (fun _ => isDigit_head?_literal), hwhole]
    rfl
  have hnot : ∀ {cs : List Char}, literal n k ≠ '0' :: cs := by
    intro cs heq
    have hhead := congrArg List.head? heq
    rw [literal, List.head?_append_of_ne_nil _ Nat.toDigits_ne_nil] at hhead
    exact head?_toDigits n hn hhead
  rw [integer?.eq_def]
  split
  · exact absurd ‹_› hnot
  · exact absurd ‹_› hnot
  · exact absurd ‹_› hnot
  · rw [hdecimal]
    rfl

theorem decimalFloat?_literal (n k : Nat) {x : Binary64}
    (hx : Binary.ofDecimal false n (-(k : Int)) = x) (hfinite : x ≠ .infinity false) :
    decimalFloat? false (literal n k) = some x := by
  have hinside : ∀ c ∈ Nat.toDigits 10 n, (c.isDigit || c == '_') = true := fun c hc => by
    rw [isDigit_toDigits hc]
    rfl
  have hsplit : splitDigits (literal n k) =
      (Nat.toDigits 10 n, 'e' :: '-' :: Nat.toDigits 10 k) := by
    rw [splitDigits, literal, List.takeWhile_append_of_pos hinside,
      List.dropWhile_append_of_pos hinside]
    simp
  have hfraction : fraction? ('e' :: '-' :: Nat.toDigits 10 k) =
      some ([], 'e' :: '-' :: Nat.toDigits 10 k) := rfl
  have hexponent : exponent? ('e' :: '-' :: Nat.toDigits 10 k) = some (-(k : Int)) := by
    simp only [exponent?, Decimal.splitSign, ungroup?_digits Nat.toDigits_ne_nil
      (fun _ => isDigit_toDigits), value?_toDigits, Option.bind_eq_bind, Option.bind_some]
    rfl
  have hdecimal : Decimal.ofDigits? false (Nat.toDigits 10 n) [] (-(k : Int)) =
      some ⟨false, n, -(k : Int)⟩ := by
    rw [Decimal.ofDigits?, List.append_nil, value?_toDigits]
    simp
  simp only [decimalFloat?, hsplit, wholeDigits?_toDigits, hfraction, hexponent, hdecimal,
    Option.bind_eq_bind, Option.bind_some, Decimal.round, hx, hfinite, if_false]
  rfl

/-- A literal stands for the number that the decimal is rounded to. -/
theorem ofWord?_literal {n : Nat} (hn : 0 < n) (k : Nat) {x : Binary64}
    (hx : Binary.ofDecimal false n (-(k : Int)) = x) (hfinite : x ≠ .infinity false) :
    ofWord? (literal n k) = some (.float x) := by
  have hword : ∀ {c : Char} {cs : List Char}, c.isDigit = false → literal n k ≠ c :: cs := by
    intro c cs hc heq
    have hdigit := isDigit_head?_literal (n := n) (k := k) (c := c) (by rw [heq]; rfl)
    rw [hc] at hdigit
    cases hdigit
  have hdate : Datetime.whole? .value (literal n k) = none :=
    Datetime.whole?_eq_none (fun _ => isDigit_toDigits) (by rintro _ ⟨⟩; decide)
  have hfloat : float? (literal n k) = some x := by
    have hinf : literal n k ≠ "inf".toList := hword rfl
    have hnan : literal n k ≠ "nan".toList := hword rfl
    simp only [float?, splitSign_digits (fun _ => isDigit_head?_literal), if_neg hinf, if_neg hnan]
    exact decimalFloat?_literal n k hx hfinite
  have htrue : literal n k ≠ "true".toList := hword rfl
  have hfalse : literal n k ≠ "false".toList := hword rfl
  rw [ofWord?, if_neg htrue, if_neg hfalse, hdate, integer?_literal hn k, hfloat]
  rfl

/-- **Every share has a literal.** -/
theorem exists_literal {x : Binary64} (hpos : (Binary.zero false).lt x = true)
    (hle : x.le (.ofInt 1) = true) :
    ∃ word, (∀ c ∈ word, isWordChar c = true) ∧ ofWord? word = some (.float x) := by
  obtain ⟨m, k, h, hm, rfl⟩ := Binary.exists_finite_of_share hpos hle
  exact ⟨literal (m * 5 ^ k) k, isWordChar_literal _ _, ofWord?_literal
    (Nat.mul_pos hm (Nat.pow_pos (by decide))) k (Binary.ofDecimal_exact (by decide) false hm h)
    (by simp)⟩

end Scalar

/-! ### Blocks -/

/-- The value has a spelling. -/
def Value.Writable (v : Value) : Prop := ∃ spelling, v.Written spelling

theorem writable_string (s : String) : (Value.string s).Writable := by
  obtain ⟨spelling, h⟩ := Quoted.exists_spells s.toList
  exact ⟨_, .string h⟩

theorem writable_natural {n : Nat} (hn : n < 0x8000000000000000) :
    (Value.integer n).Writable := ⟨_, .natural hn⟩

theorem writable_boolean (b : Bool) : (Value.boolean b).Writable := ⟨_, .boolean b⟩

theorem writable_share {x : Binary64} (hpos : (Binary.zero false).lt x = true)
    (hle : x.le (.ofInt 1) = true) : (Value.float x).Writable := by
  obtain ⟨word, hword, h⟩ := Scalar.exists_literal hpos hle
  exact ⟨word, .float hword h⟩

theorem exists_textsWritten : ∀ ss : List String, ∃ cs, TextsWritten ss cs
  | [] => ⟨_, .nil⟩
  | [s] => by
    obtain ⟨spelling, h⟩ := Quoted.exists_spells s.toList
    exact ⟨_, .one h⟩
  | s :: s' :: ss => by
    obtain ⟨spelling, h⟩ := Quoted.exists_spells s.toList
    obtain ⟨cs, hs⟩ := exists_textsWritten (s' :: ss)
    exact ⟨_, .cons h hs⟩

theorem writable_texts (ss : List String) : (Value.array (ss.map .string)).Writable := by
  obtain ⟨cs, h⟩ := exists_textsWritten ss
  exact ⟨_, .texts h⟩

/-- The key needs no quotes, and the value has a spelling. -/
def Table.Writable (t : Table) : Prop := ∀ e ∈ t, Bare e.1 ∧ e.2.Writable

theorem exists_written_keyLines {es : List Expression} {cs : List Char} (h : Written es cs) :
    ∀ {t : Table}, t.Writable → ∃ cs', Written ((keyLines t).map .keyLine ++ es) cs'
  | [], _ => ⟨cs, h⟩
  | (key, v) :: t, ht => by
    obtain ⟨hkey, spelling, hv⟩ := ht (key, v) List.mem_cons_self
    obtain ⟨cs', hrest⟩ := exists_written_keyLines h fun e he => ht e (List.mem_cons_of_mem _ he)
    exact ⟨_, .keyLine hkey.barePath hv hrest⟩

theorem exists_written_header {h : Header} (hpath : BarePath h.parents h.key)
    {es : List Expression} {cs : List Char} (hes : Written es cs) :
    ∃ cs', Written (.header h :: es) cs' := by
  obtain ⟨parents, key, isList⟩ := h
  cases isList with
  | false => exact ⟨_, .table hpath hes⟩
  | true => exact ⟨_, .listTable hpath hes⟩

/-- A section whose names need no quotes, with tables that can be written. -/
structure Part.Writable (p : Part) : Prop where
  name : Bare p.name
  own : ∀ t ∈ p.own, t.Writable
  items : ∀ t ∈ p.items, Bare p.key ∧ t.Writable

theorem exists_written_blocks {bs : List Block}
    (h : ∀ b ∈ bs, BarePath b.header.parents b.header.key ∧
      ∃ t : Table, b.lines = keyLines t ∧ t.Writable) :
    ∃ cs, Written (bs.flatMap Block.expressions) cs := by
  induction bs with
  | nil => exact ⟨[], .nil⟩
  | cons b bs ih =>
    obtain ⟨cs, hcs⟩ := ih fun b' hb' => h b' (List.mem_cons_of_mem _ hb')
    obtain ⟨hpath, t, hlines, ht⟩ := h b List.mem_cons_self
    obtain ⟨cs', hcs'⟩ := exists_written_keyLines hcs ht
    rw [List.flatMap_cons, Block.expressions, hlines]
    exact exists_written_header hpath hcs'

/-- **Sections can be written**, one after the other. -/
theorem exists_written {parts : List Part} (h : ∀ p ∈ parts, p.Writable) :
    ∃ cs, Written ((parts.flatMap Part.blocks).flatMap Block.expressions) cs := by
  refine exists_written_blocks fun b hb => ?_
  obtain ⟨p, hp, hb⟩ := List.mem_flatMap.mp hb
  obtain ⟨hname, hown, hitems⟩ := h p hp
  rcases List.mem_append.mp hb with hb | hb
  · obtain ⟨t, ht, rfl⟩ := List.mem_map.mp hb
    exact ⟨hname.barePath, t, rfl, hown t (Option.mem_toList.mp ht)⟩
  · obtain ⟨t, ht, rfl⟩ := List.mem_map.mp hb
    obtain ⟨hkey, ht⟩ := hitems t ht
    exact ⟨hname.barePath_below hkey, t, rfl, ht⟩

/-- Sections one after the other keep their blocks. -/
theorem blocksAt_flatMap {parts : List Part} (hnames : (parts.map Part.name).Nodup) :
    ∀ p ∈ parts, blocksAt p.name (parts.flatMap Part.blocks) = p.blocks :=
  fun _ hp => filter_flatMap hnames (fun q _ => q.top_blocks) hp

end WmConfig.Toml
