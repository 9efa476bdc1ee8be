import WmConfig.Keysym.Spelling
import WmConfig.Proofs.Lookup
import WmConfig.Proofs.Number.Digits

/-! # The vocabulary of keys

A text stands for a key iff it is a name, a function key, a printable character of Latin-1, a code or
a scalar value, where a number may have a plus sign in front of its digits (`ofName_ne_none_iff`). -/

namespace WmConfig.Keysym

open Numeral

/-! ### The written forms -/

/-- A sign and digits of the base with the given number. -/
def IsNumeral (sign : List Char) (base : Nat) (cs : List Char) (n : Nat) : Prop :=
  ∃ ds, cs = sign ++ ds ∧ ds ≠ [] ∧ AreDigits base ds ∧ n = number base ds

/-- The letters of the function keys, and how many keys each has. -/
def functionRows : List (Char × Nat) := [('F', 35), ('L', 10), ('R', 15)]

/-- **The vocabulary**, with the given sign in front of each number. -/
inductive Written (sign : List Char) : String → Prop
  | named {name : String} {k : UInt32} (hname : (name, k) ∈ named) : Written sign name
  | function {c : Char} {count n : Nat} {cs : List Char} (hrow : (c, count) ∈ functionRows)
      (hcs : IsNumeral sign 10 cs n) (hleast : 1 ≤ n) (hmost : n ≤ count) :
      Written sign (String.ofList (c :: cs))
  | character {c : Char} (hc : 0x20 ≤ c.toNat ∧ c.toNat ≤ 0x7e ∨ 0xa0 ≤ c.toNat ∧ c.toNat ≤ 0xff) :
      Written sign (String.ofList [c])
  | code {cs : List Char} {n : Nat} (hcs : IsNumeral sign 16 cs n) (hpos : 0 < n)
      (hmost : n < UInt32.size) : Written sign (String.ofList ('0' :: 'x' :: cs))
  | scalar {cs : List Char} {n : Nat} (hcs : IsNumeral sign 16 cs n) (hscalar : n.isValidChar) :
      Written sign (String.ofList ('U' :: cs))

/-! ### Numbers -/

/-- **A number may have a plus sign.** -/
theorem word?_eq_some_iff {base n : Nat} {cs : List Char} (hbase : base ≤ 16) :
    word? base cs = some n ↔
      n < UInt32.size ∧ (IsNumeral [] base cs n ∨ IsNumeral ['+'] base cs n) := by
  have hplus : ¬ digitValue '+' < base := by
    have hvalue : digitValue '+' = 16 := by decide
    omega
  rw [word?, Option.filter_eq_some_iff, value?_eq_some_iff hbase, decide_eq_true_iff, and_comm]
  refine and_congr_right fun _ => ?_
  by_cases hcs : ∃ ds, cs = '+' :: ds
  · obtain ⟨ds, rfl⟩ := hcs
    constructor
    · exact fun h => .inr ⟨ds, rfl, h⟩
    · rintro (⟨ds', rfl, -, hdigits, -⟩ | ⟨ds', hds, h⟩)
      · exact absurd (hdigits '+' List.mem_cons_self) hplus
      · exact (List.cons.inj hds).2 ▸ h
  · have hdrop : dropPlus cs = cs := dropPlus.eq_2 cs fun ds hds => hcs ⟨ds, hds⟩
    rw [hdrop]
    constructor
    · exact fun h => .inl ⟨cs, rfl, h⟩
    · rintro (⟨ds, rfl, h⟩ | ⟨ds, hds, -⟩)
      · exact h
      · exact absurd ⟨ds, hds⟩ hcs

theorem word?_of_isNumeral {sign : List Char} (hsign : sign = [] ∨ sign = ['+']) {base n : Nat}
    {cs : List Char} (hbase : base ≤ 16) (hn : n < UInt32.size) (hcs : IsNumeral sign base cs n) :
    word? base cs = some n := by
  refine (word?_eq_some_iff hbase).mpr ⟨hn, ?_⟩
  rcases hsign with rfl | rfl
  · exact .inl hcs
  · exact .inr hcs

/-! ### The forms -/

/-- Of two forms tried in turn, either may give a code. -/
theorem getD_orElse_ne {a b : Option UInt32} (h : a = some none → b = Option.none) :
    (a <|> b).getD none ≠ none ↔ a.getD none ≠ none ∨ b.getD none ≠ none := by
  cases a with
  | none => simp
  | some k =>
    by_cases hk : k = none
    · subst hk
      rw [h rfl]
      simp
    · simp [hk]

/-- A form whose codes all stand for keys. -/
theorem getD_ne_iff {o : Option UInt32} (ho : ∀ k, o = some k → k ≠ none) :
    o.getD none ≠ none ↔ ∃ k, o = some k := by
  cases o with
  | none => simp
  | some k => simp [ho k rfl]

theorem named_ne : ∀ p ∈ named, p.2 ≠ none := by decide +kernel

theorem getD_named_ne (name : String) :
    (named.lookup name).getD none ≠ none ↔ ∃ k, (name, k) ∈ named := by
  rw [getD_ne_iff fun k hk => named_ne _ (mem_of_lookup hk)]
  constructor
  · exact fun ⟨k, hk⟩ => ⟨k, mem_of_lookup hk⟩
  · rintro ⟨k, hk⟩
    rw [← Option.isSome_iff_exists, List.lookup_isSome_iff]
    exact ⟨_, hk, by simp⟩

theorem functionRows_le : ∀ p ∈ functionRows, p.2 ≤ 35 := by decide

/-- The letters stand for function keys up to the last one. -/
theorem functionRow?_eq_some {c : Char} {before count : Nat}
    (h : functionRow? c = some (before, count)) :
    (c, count) ∈ functionRows ∧ before + count ≤ 35 := by
  unfold functionRow? at h
  split at h <;> cases h <;> decide

theorem exists_functionRow? {c : Char} {count : Nat} (h : (c, count) ∈ functionRows) :
    ∃ before, functionRow? c = some (before, count) := by
  simp only [functionRows, List.mem_cons, Prod.mk.injEq, List.not_mem_nil, or_false] at h
  rcases h with ⟨rfl, rfl⟩ | ⟨rfl, rfl⟩ | ⟨rfl, rfl⟩ <;> exact ⟨_, rfl⟩

/-- A function key is a letter and a number, and it has a code. -/
theorem function?_eq_some {cs : List Char} {k : UInt32} (h : function? cs = some k) :
    k ≠ none ∧ ∃ c count ds, cs = c :: ds ∧ (c, count) ∈ functionRows ∧
      ∃ n, word? 10 ds = some n ∧ 1 ≤ n ∧ n ≤ count := by
  cases cs with
  | nil => cases h
  | cons c ds =>
    obtain ⟨⟨before, count⟩, hrow, h⟩ := Option.bind_eq_some_iff.mp h
    obtain ⟨n, hn, hk⟩ := Option.bind_eq_some_iff.mp h
    obtain ⟨hword, hbounds⟩ := Option.filter_eq_some_iff.mp hn
    obtain ⟨hleast, hmost⟩ : 1 ≤ n ∧ n ≤ count := of_decide_eq_true hbounds
    obtain ⟨hmem, hlast⟩ := functionRow?_eq_some hrow
    have hkeys : ∀ m < 35, firstFunctionKey + UInt32.ofNat m ≠ none := by decide
    have hcode := hkeys (before + n - 1) (by omega)
    exact ⟨Option.some.inj hk ▸ hcode, c, count, ds, rfl, hmem, n, hword, hleast, hmost⟩

theorem getD_function?_ne (cs : List Char) : (function? cs).getD none ≠ none ↔
    ∃ c count ds, cs = c :: ds ∧ (c, count) ∈ functionRows ∧
      ∃ n, word? 10 ds = some n ∧ 1 ≤ n ∧ n ≤ count := by
  rw [getD_ne_iff fun k hk => (function?_eq_some hk).1]
  constructor
  · exact fun ⟨k, hk⟩ => (function?_eq_some hk).2
  · rintro ⟨c, count, ds, rfl, hmem, n, hword, hleast, hmost⟩
    obtain ⟨before, hrow⟩ := exists_functionRow? hmem
    exact ⟨firstFunctionKey + UInt32.ofNat (before + n - 1),
      by simp [function?, hrow, hword, Option.filter_some, hleast, hmost]⟩

theorem ofNat_ne {n : Nat} (hpos : 0 < n) (hlt : n < UInt32.size) : UInt32.ofNat n ≠ none := by
  intro h
  have htoNat := congrArg UInt32.toNat h
  rw [UInt32.toNat_ofNat_of_lt' hlt] at htoNat
  exact Nat.ne_of_gt hpos htoNat

/-- A character is one of Latin-1, so it has a code. -/
theorem character?_eq_some {cs : List Char} {k : UInt32} (h : character? cs = some k) :
    k ≠ none ∧ ∃ c : Char, cs = [c] ∧
      (0x20 ≤ c.toNat ∧ c.toNat ≤ 0x7e ∨ 0xa0 ≤ c.toNat ∧ c.toNat ≤ 0xff) := by
  rcases cs with _ | ⟨c, _ | ⟨d, ds⟩⟩
  · cases h
  · rw [character?] at h
    split_ifs at h with hlatin
    simp only [isLatin, Bool.or_eq_true, Bool.and_eq_true, decide_eq_true_eq] at hlatin
    have hne : UInt32.ofNat c.toNat ≠ none :=
      ofNat_ne (by omega) (Nat.lt_of_le_of_lt (show c.toNat ≤ 0xff by omega) (by decide))
    exact ⟨Option.some.inj h ▸ hne, c, rfl, hlatin⟩
  · cases h

theorem getD_character?_ne (cs : List Char) : (character? cs).getD none ≠ none ↔
    ∃ c : Char, cs = [c] ∧
      (0x20 ≤ c.toNat ∧ c.toNat ≤ 0x7e ∨ 0xa0 ≤ c.toNat ∧ c.toNat ≤ 0xff) := by
  rw [getD_ne_iff fun k hk => (character?_eq_some hk).1]
  constructor
  · exact fun ⟨k, hk⟩ => (character?_eq_some hk).2
  · rintro ⟨c, rfl, hc⟩
    exact ⟨_, if_pos (by simpa [isLatin] using hc)⟩

theorem word?_lt {base n : Nat} {cs : List Char} (h : word? base cs = some n) : n < UInt32.size :=
  of_decide_eq_true (Option.filter_eq_some_iff.mp h).2

theorem getD_code?_ne (cs : List Char) : (code? cs).getD none ≠ none ↔
    ∃ ds, cs = '0' :: 'x' :: ds ∧ ∃ n, word? 16 ds = some n ∧ 0 < n ∧ n < UInt32.size := by
  by_cases hcs : ∃ ds, cs = '0' :: 'x' :: ds
  · obtain ⟨ds, rfl⟩ := hcs
    simp only [code?, List.cons.injEq, true_and, exists_eq_left']
    cases hword : word? 16 ds with
    | none => simp
    | some n =>
      simp only [Option.map_some, Option.getD_some, Option.some.injEq, exists_eq_left']
      constructor
      · exact fun hne => ⟨Nat.pos_of_ne_zero fun hn => hne (by rw [hn]; rfl), word?_lt hword⟩
      · exact fun ⟨hpos, hlt⟩ => ofNat_ne hpos hlt
  · have hnone : code? cs = Option.none := code?.eq_2 cs fun ds hds => hcs ⟨ds, hds⟩
    rw [hnone]
    exact ⟨fun h => absurd rfl h, fun ⟨ds, hds, _⟩ => absurd ⟨ds, hds⟩ hcs⟩

theorem isValidChar_lt {n : Nat} (h : n.isValidChar) : n < 0x110000 := by
  rcases h with h | ⟨-, h⟩
  · exact Nat.lt_trans h (by decide)
  · exact h

theorem unicodeOffset_add (n : Nat) :
    unicodeOffset + UInt32.ofNat n = UInt32.ofNat (0x1000000 + n) := by
  rw [UInt32.ofNat_add]
  rfl

theorem ofScalar_ne {n : Nat} (h : n.isValidChar) : ofScalar n ≠ none := by
  have hlt := isValidChar_lt h
  rw [ofScalar]
  split_ifs with hlatin
  · simp only [isLatin, Bool.or_eq_true, Bool.and_eq_true, decide_eq_true_eq] at hlatin
    exact ofNat_ne (by omega) (Nat.lt_trans hlt (by decide))
  · rw [unicodeOffset_add]
    exact ofNat_ne (by omega) (Nat.lt_trans (Nat.add_lt_add_left hlt _) (by decide))

theorem getD_scalar?_ne (cs : List Char) : (scalar? cs).getD none ≠ none ↔
    ∃ ds, cs = 'U' :: ds ∧ ∃ n, word? 16 ds = some n ∧ n.isValidChar := by
  by_cases hcs : ∃ ds, cs = 'U' :: ds
  · obtain ⟨ds, rfl⟩ := hcs
    simp only [scalar?, List.cons.injEq, true_and, exists_eq_left']
    cases hword : word? 16 ds with
    | none => simp
    | some n =>
      by_cases hn : n.isValidChar
      · simp [Option.filter_some, hn, ofScalar_ne hn]
      · simp [Option.filter_some, hn]
  · have hnone : scalar? cs = Option.none := scalar?.eq_2 cs fun ds hds => hcs ⟨ds, hds⟩
    rw [hnone]
    exact ⟨fun h => absurd rfl h, fun ⟨ds, hds, _⟩ => absurd ⟨ds, hds⟩ hcs⟩

/-- A code starts with a digit and a scalar value with a letter. -/
theorem scalar?_of_code? {cs : List Char} {k : UInt32} (h : code? cs = some k) :
    scalar? cs = Option.none := by
  rcases cs with _ | ⟨c, cs⟩
  · rfl
  · refine scalar?.eq_2 _ fun ds hds => ?_
    rw [(List.cons.inj hds).1] at h
    cases h

/-! ### The vocabulary -/

/-- The forms are tried in turn, and each of them may give a code. -/
theorem ofName_ne_none_iff_forms (name : String) : ofName name ≠ none ↔
    (∃ k, (name, k) ∈ named) ∨
    (∃ c count ds, name.toList = c :: ds ∧ (c, count) ∈ functionRows ∧
      ∃ n, word? 10 ds = some n ∧ 1 ≤ n ∧ n ≤ count) ∨
    (∃ c : Char, name.toList = [c] ∧
      (0x20 ≤ c.toNat ∧ c.toNat ≤ 0x7e ∨ 0xa0 ≤ c.toNat ∧ c.toNat ≤ 0xff)) ∨
    (∃ ds, name.toList = '0' :: 'x' :: ds ∧
      ∃ n, word? 16 ds = some n ∧ 0 < n ∧ n < UInt32.size) ∨
    ∃ ds, name.toList = 'U' :: ds ∧ ∃ n, word? 16 ds = some n ∧ n.isValidChar := by
  have hnamed : named.lookup name ≠ some none := fun h => named_ne _ (mem_of_lookup h) rfl
  have hfunction : function? name.toList ≠ some none := fun h => (function?_eq_some h).1 rfl
  have hcharacter : character? name.toList ≠ some none := fun h => (character?_eq_some h).1 rfl
  rw [← getD_named_ne, ← getD_function?_ne, ← getD_character?_ne, ← getD_code?_ne,
    ← getD_scalar?_ne, ← getD_orElse_ne scalar?_of_code?,
    ← getD_orElse_ne fun h => absurd h hcharacter, ← getD_orElse_ne fun h => absurd h hfunction,
    ← getD_orElse_ne fun h => absurd h hnamed, ofName]

/-- What is of the vocabulary, with a plus sign or without, stands for a key. -/
theorem Written.ofName_ne {sign : List Char} (hsign : sign = [] ∨ sign = ['+']) {name : String}
    (h : Written sign name) : ofName name ≠ none := by
  rw [ofName_ne_none_iff_forms]
  cases h with
  | named hname => exact .inl ⟨_, hname⟩
  | function hrow hcs hleast hmost =>
    have hrows := functionRows_le _ hrow
    have hlt := Nat.lt_of_le_of_lt (Nat.le_trans hmost hrows) (show 35 < UInt32.size by decide)
    have hword := word?_of_isNumeral hsign (by decide) hlt hcs
    exact .inr (.inl ⟨_, _, _, String.toList_ofList, hrow, _, hword, hleast, hmost⟩)
  | character hc => exact .inr (.inr (.inl ⟨_, String.toList_ofList, hc⟩))
  | code hcs hpos hmost =>
    have hword := word?_of_isNumeral hsign (Nat.le_refl 16) hmost hcs
    exact .inr (.inr (.inr (.inl ⟨_, String.toList_ofList, _, hword, hpos, hmost⟩)))
  | scalar hcs hscalar =>
    have hlt := Nat.lt_trans (isValidChar_lt hscalar) (show 0x110000 < UInt32.size by decide)
    have hword := word?_of_isNumeral hsign (Nat.le_refl 16) hlt hcs
    exact .inr (.inr (.inr (.inr ⟨_, String.toList_ofList, _, hword, hscalar⟩)))

/-- **A text stands for a key iff it is of the vocabulary**, with or without plus signs in front of
the numbers. -/
theorem ofName_ne_none_iff (name : String) :
    ofName name ≠ none ↔ Written [] name ∨ Written ['+'] name := by
  constructor
  · rw [ofName_ne_none_iff_forms]
    obtain ⟨cs, rfl⟩ : ∃ cs, name = String.ofList cs := ⟨name.toList, String.ofList_toList.symm⟩
    simp only [String.toList_ofList]
    rintro (⟨k, hk⟩ | ⟨c, count, ds, rfl, hrow, n, hn, hleast, hmost⟩ | ⟨c, rfl, hc⟩ |
      ⟨ds, rfl, n, hn, hpos, hmost⟩ | ⟨ds, rfl, n, hn, hscalar⟩)
    · exact .inl (.named hk)
    · exact ((word?_eq_some_iff (by decide)).mp hn).2.imp (.function hrow · hleast hmost)
        (.function hrow · hleast hmost)
    · exact .inl (.character hc)
    · exact ((word?_eq_some_iff (Nat.le_refl 16)).mp hn).2.imp (.code · hpos hmost)
        (.code · hpos hmost)
    · exact ((word?_eq_some_iff (Nat.le_refl 16)).mp hn).2.imp (.scalar · hscalar)
        (.scalar · hscalar)
  · rintro (h | h)
    · exact h.ofName_ne (.inl rfl)
    · exact h.ofName_ne (.inr rfl)

/-- **A plus sign is let through**: this text is not of the vocabulary and stands for the first
function key. -/
theorem ofName_plus :
    ofName "F+1" = firstFunctionKey ∧ firstFunctionKey ≠ none ∧ ¬ Written [] "F+1" := by
  refine ⟨by decide +kernel, by decide, fun h => ?_⟩
  have hnamed : ∀ p ∈ named, p.1 ≠ "F+1" := by decide +kernel
  have htoList : "F+1".toList = ['F', '+', '1'] := rfl
  generalize "F+1" = name at h hnamed htoList
  cases h with
  | named hname => exact hnamed _ hname rfl
  | function _ hcs _ _ =>
    rw [String.toList_ofList] at htoList
    obtain ⟨ds, hds, -, hdigits, -⟩ := hcs
    rw [(List.cons.inj htoList).2, List.nil_append] at hds
    exact absurd (hdigits '+' (hds ▸ List.mem_cons_self)) (by decide)
  | character _ =>
    rw [String.toList_ofList] at htoList
    exact absurd (List.cons.inj htoList).2 (List.cons_ne_nil _ _).symm
  | code _ _ _ =>
    rw [String.toList_ofList] at htoList
    exact absurd (List.cons.inj htoList).1 (by decide)
  | scalar _ _ =>
    rw [String.toList_ofList] at htoList
    exact absurd (List.cons.inj htoList).1 (by decide)

end WmConfig.Keysym
