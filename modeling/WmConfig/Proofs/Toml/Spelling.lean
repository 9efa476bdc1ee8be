import WmConfig.Toml.Document
import Mathlib.Data.List.Basic

/-! # Spellings of texts and numbers

How a text is spelled between double quotes, and a whole number in decimal, given apart from the
readers; the readers read each spelling as what it spells.

* `Quoted.Spells`: the basic spellings of a text. Every text has one (`Quoted.exists_spells`), and
  each is read as the text (`Quoted.read?_spells`).
* `Scalar.integer?_toDigits`: a whole number is read off its decimal digits. -/

namespace WmConfig.Toml

/-! ### Quoted texts -/

namespace Quoted

/-- The escapes of one letter, each with the character that it stands for. -/
def escapes : List (Char × Char) :=
  [('b', '\x08'), ('t', '\t'), ('n', '\n'), ('f', '\x0c'), ('r', '\r'), ('\x22', '\x22'),
    ('\\', '\\')]

/-- A text and a spelling of it between double quotes: the characters themselves, quotes,
backslashes and control characters apart, or any of the escapes. -/
inductive Spells : List Char → List Char → Prop
  | nil : Spells [] []
  | plain {c : Char} {text spelling : List Char} (htext : isText c = true) (hquote : c ≠ '\x22')
      (hback : c ≠ '\\') (h : Spells text spelling) : Spells (c :: text) (c :: spelling)
  | letter {e c : Char} {text spelling : List Char} (he : (e, c) ∈ escapes)
      (h : Spells text spelling) : Spells (c :: text) ('\\' :: e :: spelling)
  | four {a₁ a₂ a₃ a₄ c : Char} {text spelling : List Char}
      (hc : Numeral.value? 16 [a₁, a₂, a₃, a₄] = some c.toNat) (h : Spells text spelling) :
      Spells (c :: text) ('\\' :: 'u' :: a₁ :: a₂ :: a₃ :: a₄ :: spelling)
  | eight {a₁ a₂ a₃ a₄ a₅ a₆ a₇ a₈ c : Char} {text spelling : List Char}
      (hc : Numeral.value? 16 [a₁, a₂, a₃, a₄, a₅, a₆, a₇, a₈] = some c.toNat)
      (h : Spells text spelling) :
      Spells (c :: text) ('\\' :: 'U' :: a₁ :: a₂ :: a₃ :: a₄ :: a₅ :: a₆ :: a₇ :: a₈ :: spelling)

theorem scalar?_eq_some {digits : List Char} {c : Char}
    (h : Numeral.value? 16 digits = some c.toNat) : scalar? digits = some c := by
  have hvalid : Nat.isValidChar c.toNat := c.valid
  rw [scalar?, h, Option.filter_some_eq_some.mpr (by simpa using hvalid), Option.map_some,
    Char.ofNat_toNat]

theorem escaped?_of_mem : ∀ p ∈ escapes, p.1 ≠ 'u' ∧ p.1 ≠ 'U' ∧ escaped? p.1 = some p.2 := by
  decide

/-- **A spelling is read as its text.** -/
theorem basic?_spells {text spelling : List Char} (h : Spells text spelling) (rest : List Char) :
    basic? (spelling ++ '\x22' :: rest) = some (text, rest) := by
  induction h with
  | nil => rfl
  | plain htext hquote hback _ ih =>
    rw [List.cons_append,
      basic?.eq_6 _ _ hquote (by simp [hback]) (by simp [hback]) (by simp [hback]),
      if_pos htext, ih]
    rfl
  | @letter e c _ _ he _ ih =>
    rw [List.cons_append, List.cons_append]
    obtain ⟨hu, hU, hescaped⟩ := escaped?_of_mem (e, c) he
    rw [basic?.eq_5 _ _ (fun _ _ _ _ _ h => absurd h hu) (fun _ _ _ _ _ _ _ _ _ h => absurd h hU),
      ih, hescaped]
    rfl
  | four hc _ ih =>
    simp only [List.cons_append]
    rw [basic?, ih, scalar?_eq_some hc]
    rfl
  | eight hc _ ih =>
    simp only [List.cons_append]
    rw [basic?, ih, scalar?_eq_some hc]
    rfl

theorem Spells.head?_ne {text spelling : List Char} (h : Spells text spelling) :
    spelling.head? ≠ some '\x22' := by
  intro hquote
  cases h with
  | nil => cases hquote
  | plain _ hne => exact hne (Option.some.inj hquote)
  | _ => exact absurd (Option.some.inj hquote) (by decide)

/-- The text that a quote opens, unless the spelling is empty and a further quote follows. -/
theorem read?_basic {text spelling : List Char} (h : Spells text spelling) {rest : List Char}
    (hrest : spelling ≠ [] ∨ rest.head? ≠ some '\x22') :
    read? ('\x22' :: (spelling ++ '\x22' :: rest)) = some (text, rest) := by
  have hnot : ∀ cs, spelling ++ '\x22' :: rest ≠ '\x22' :: '\x22' :: cs := by
    intro cs heq
    cases spelling with
    | nil =>
      refine hrest.elim (fun hne => hne rfl) fun hne => hne ?_
      rw [(List.cons.inj heq).2]
      rfl
    | cons c spelling => exact h.head?_ne (congrArg some (List.cons.inj heq).1)
  rw [read?.eq_2 _ hnot]
  exact basic?_spells h rest

theorem read?_spells {text spelling : List Char} (h : Spells text spelling) {rest : List Char}
    (hrest : rest.head? ≠ some '\x22') :
    read? ('\x22' :: (spelling ++ '\x22' :: rest)) = some (text, rest) :=
  read?_basic h (.inr hrest)

/-- The hexadecimal digits of a number below 256, filled up to four. -/
def fourDigits (n : Nat) : List Char := ['0', '0', Nat.digitChar (n / 16), Nat.digitChar (n % 16)]

theorem value?_fourDigits : ∀ n < 128, Numeral.value? 16 (fourDigits n) = some n := by
  decide +kernel

/-- Every text can be spelled. -/
theorem exists_spells : ∀ text : List Char, ∃ spelling, Spells text spelling
  | [] => ⟨[], .nil⟩
  | c :: text => by
    obtain ⟨spelling, h⟩ := exists_spells text
    by_cases hquote : c = '\x22'
    · exact ⟨_, .letter (show ('\x22', c) ∈ escapes by rw [hquote]; decide) h⟩
    by_cases hback : c = '\\'
    · exact ⟨_, .letter (show ('\\', c) ∈ escapes by rw [hback]; decide) h⟩
    by_cases htext : isText c = true
    · exact ⟨_, .plain htext hquote hback h⟩
    · -- What is left are the control characters, all below 128.
      have hlow : c.toNat < 128 := by
        by_contra hhigh
        refine htext ?_
        unfold isText
        have : ' ' ≤ c := by
          rw [Char.le_def, UInt32.le_iff_toNat_le]
          change 32 ≤ c.toNat
          omega
        have : c ≠ '\x7f' := by
          rintro rfl
          exact hhigh (by decide)
        simp [*]
      exact ⟨_, .four (value?_fourDigits _ hlow) h⟩

end Quoted

/-! ### Digits -/

theorem digitOf?_of_isDigit {c : Char} (hc : c.isDigit = true) :
    Numeral.digitOf? 10 c = some (c.toNat - '0'.toNat) := by
  have hrange : '0' ≤ c ∧ c ≤ '9' := by simpa [Char.isDigit, Char.le_def] using hc
  have hlt : c.toNat - '0'.toNat < 10 := by
    have : c.toNat ≤ '9'.toNat := hrange.2
    change c.toNat ≤ 57 at this
    change c.toNat - 48 < 10
    omega
  rw [Numeral.digitOf?, Numeral.digit?, if_pos hrange]
  exact Option.filter_some_eq_some.mpr (by simpa using hlt)

theorem isDigit_of_digitOf? {c : Char} {d : Nat} (h : Numeral.digitOf? 10 c = some d) :
    c.isDigit = true := by
  obtain ⟨hd, hlt⟩ := Option.filter_eq_some_iff.mp h
  rw [Numeral.digit?] at hd
  split_ifs at hd with h₁
  · simpa [Char.isDigit, Char.le_def] using h₁
  · simp at hd hlt
    omega
  · simp at hd hlt
    omega

theorem extend?_digits {cs : List Char} (hcs : ∀ c ∈ cs, c.isDigit = true) (acc : Nat) :
    Numeral.extend? 10 acc cs = some (Nat.ofDigitChars 10 cs acc) := by
  induction cs generalizing acc with
  | nil => rfl
  | cons c cs ih =>
    rw [Numeral.extend?, digitOf?_of_isDigit (hcs c List.mem_cons_self), Option.bind_some,
      ih (fun c' hc' => hcs c' (List.mem_cons_of_mem _ hc')), Nat.ofDigitChars_cons, Nat.mul_comm]

/-- Whatever has a value in a base is made of digits of the base. -/
theorem isSome_digitOf?_of_value? {base n : Nat} {cs : List Char}
    (h : Numeral.value? base cs = some n) : ∀ c ∈ cs, (Numeral.digitOf? base c).isSome = true := by
  have hextend : ∀ (cs : List Char) (acc : Nat), Numeral.extend? base acc cs = some n →
      ∀ c ∈ cs, (Numeral.digitOf? base c).isSome = true := by
    intro cs
    induction cs with
    | nil => simp
    | cons c cs ih =>
      intro acc h
      obtain ⟨d, hd, h⟩ := Option.bind_eq_some_iff.mp h
      exact List.forall_mem_cons.mpr ⟨by rw [hd]; rfl, ih _ h⟩
  rw [Numeral.value?] at h
  split_ifs at h
  exact hextend cs 0 h

theorem isDigit_toDigits {n : Nat} {c : Char} (hc : c ∈ Nat.toDigits 10 n) : c.isDigit = true :=
  Nat.isDigit_of_mem_toDigits (by decide) (by decide) hc

theorem value?_toDigits (n : Nat) : Numeral.value? 10 (Nat.toDigits 10 n) = some n := by
  rw [Numeral.value?, if_neg (by simp [Nat.toDigits_ne_nil]),
    extend?_digits (fun _ => isDigit_toDigits), Nat.ofDigitChars_ten_toDigits]

/-- No zero stands in front of a positive number. -/
theorem head?_toDigits (n : Nat) (hn : 0 < n) : (Nat.toDigits 10 n).head? ≠ some '0' := by
  have hdigit : ∀ d < 10, 0 < d → [Nat.digitChar d].head? ≠ some '0' := by decide
  rw [Nat.toDigits_eq_if (by decide)]
  split_ifs with hlt
  · exact hdigit n hlt hn
  · rw [List.head?_append_of_ne_nil _ Nat.toDigits_ne_nil]
    exact head?_toDigits (n / 10) (by omega)

/-! ### Words -/

theorem Date.read?_eq_some {cs rest : List Char} {date : Date}
    (h : Date.read? cs = some (date, rest)) :
    ∃ ds cs', cs = ds ++ '-' :: cs' ∧ ∀ c ∈ ds, c.isDigit = true := by
  rw [Date.read?.eq_def] at h
  split at h
  · obtain ⟨year, hyear, -⟩ := Option.bind_eq_some_iff.mp h
    refine ⟨[_, _, _, _], _, rfl, fun c hc => ?_⟩
    obtain ⟨d, hd⟩ := Option.isSome_iff_exists.mp (isSome_digitOf?_of_value? hyear c hc)
    exact isDigit_of_digitOf? hd
  · cases h

theorem Time.read?_eq_some {limits : Datetime.Limits} {cs rest : List Char} {time : Time}
    (h : Time.read? limits cs = some (time, rest)) :
    ∃ ds cs', cs = ds ++ ':' :: cs' ∧ ∀ c ∈ ds, c.isDigit = true := by
  rw [Time.read?.eq_def] at h
  split at h
  · obtain ⟨hour, hhour, -⟩ := Option.bind_eq_some_iff.mp h
    have hvalue := (Option.filter_eq_some_iff.mp hhour).1
    refine ⟨[_, _], _, rfl, fun c hc => ?_⟩
    obtain ⟨d, hd⟩ := Option.isSome_iff_exists.mp (isSome_digitOf?_of_value? hvalue c hc)
    exact isDigit_of_digitOf? hd
  · cases h

/-- A date form starts with digits and then a hyphen or a colon. -/
theorem Datetime.whole?_eq_none {limits : Limits} {ds cs : List Char}
    (hds : ∀ c ∈ ds, c.isDigit = true) (hcs : ∀ c, cs.head? = some c →
      c.isDigit = false ∧ c ≠ '-' ∧ c ≠ ':') : whole? limits (ds ++ cs) = none := by
  have hother : ∀ {ds' cs' sign}, sign = '-' ∨ sign = ':' → (∀ c ∈ ds', c.isDigit = true) →
      ds ++ cs ≠ ds' ++ sign :: cs' := by
    intro ds' cs' sign hsign hds' heq
    have hsign' : sign.isDigit = false := by rcases hsign with rfl | rfl <;> rfl
    have hdrop := congrArg (fun l => (l.dropWhile Char.isDigit).head?) heq
    simp only [List.dropWhile_append_of_pos hds, List.dropWhile_append_of_pos hds'] at hdrop
    rw [List.dropWhile_cons_of_neg (by simp [hsign'])] at hdrop
    cases cs with
    | nil => cases hdrop
    | cons c cs =>
      obtain ⟨hdigit, hne⟩ := hcs c rfl
      rw [List.dropWhile_cons_of_neg (by simp [hdigit])] at hdrop
      rw [Option.some.inj hdrop] at hne
      rcases hsign with rfl | rfl
      · exact hne.1 rfl
      · exact hne.2 rfl
  have hdate : Date.read? (ds ++ cs) = none := by
    by_contra h
    obtain ⟨⟨date, rest⟩, hread⟩ := Option.ne_none_iff_exists'.mp h
    obtain ⟨ds', cs', heq, hds'⟩ := Date.read?_eq_some hread
    exact hother (Or.inl rfl) hds' heq
  have htime : Time.read? limits (ds ++ cs) = none := by
    by_contra h
    obtain ⟨⟨time, rest⟩, hread⟩ := Option.ne_none_iff_exists'.mp h
    obtain ⟨ds', cs', heq, hds'⟩ := Time.read?_eq_some hread
    exact hother (Or.inr rfl) hds' heq
  rw [whole?, hdate, htime]

/-- A date form does not start with a sign. -/
theorem Datetime.whole?_minus (limits : Limits) (cs : List Char) :
    whole? limits ('-' :: cs) = none := by
  have hdate : Date.read? ('-' :: cs) = none := by
    rw [Date.read?.eq_def]
    split
    · next heq =>
      rw [← (List.cons.inj heq).1]
      rfl
    · rfl
  have htime : Time.read? limits ('-' :: cs) = none := by
    rw [Time.read?.eq_def]
    split
    · next heq =>
      rw [← (List.cons.inj heq).1]
      rfl
    · rfl
  rw [whole?, hdate, htime]

namespace Scalar

theorem ungroup?_digits : ∀ {cs : List Char}, cs ≠ [] → (∀ c ∈ cs, c.isDigit = true) →
    ungroup? Char.isDigit cs = some cs
  | [], hne, _ => absurd rfl hne
  | [c], _, hcs => by rw [ungroup?, if_pos (hcs c List.mem_cons_self)]
  | c₁ :: c₂ :: cs, _, hcs => by
    have hc₂ : c₂ ≠ '_' := by
      rintro rfl
      exact absurd (hcs '_' (by simp)) (by decide)
    rw [ungroup?.eq_4 _ _ _ (by simp) (by simpa using fun h => absurd h hc₂),
      if_pos (hcs c₁ List.mem_cons_self),
      ungroup?_digits (by simp) (fun c hc => hcs c (List.mem_cons_of_mem _ hc))]
    rfl

theorem wholeDigits?_toDigits (n : Nat) :
    wholeDigits? (Nat.toDigits 10 n) = some (Nat.toDigits 10 n) := by
  rw [wholeDigits?, ungroup?_digits Nat.toDigits_ne_nil (fun _ => isDigit_toDigits)]
  refine Option.filter_some_eq_some.mpr ?_
  rcases Nat.eq_zero_or_pos n with rfl | hn
  · decide
  · simpa using Or.inr (head?_toDigits n hn)

theorem splitSign_digits {cs : List Char} (hcs : ∀ c, cs.head? = some c → c.isDigit = true) :
    Decimal.splitSign cs = (false, cs) := by
  rw [Decimal.splitSign.eq_def]
  split
  · exact absurd (hcs '+' rfl) (by decide)
  · exact absurd (hcs '-' rfl) (by decide)
  · rfl

theorem isDigit_head?_toDigits {n : Nat} {c : Char} (hc : (Nat.toDigits 10 n).head? = some c) :
    c.isDigit = true := isDigit_toDigits (List.mem_of_mem_head? hc)

/-- A whole number that fits 64 bits is read off its digits. -/
theorem integer?_toDigits {n : Nat} (hn : n < 0x8000000000000000) :
    integer? (Nat.toDigits 10 n) = some (n : Int) := by
  have hdecimal : decimal? (Nat.toDigits 10 n) = some (n : Int) := by
    simp only [decimal?, splitSign_digits (fun _ => isDigit_head?_toDigits),
      wholeDigits?_toDigits, value?_toDigits, Option.bind_eq_bind, Option.bind_some]
    rfl
  have hnot : ∀ {base : Char} {cs : List Char}, base.isDigit = false →
      Nat.toDigits 10 n ≠ '0' :: base :: cs := by
    intro base cs hbase heq
    have hdigit := isDigit_toDigits (n := n) (c := base) (by rw [heq]; simp)
    rw [hbase] at hdigit
    cases hdigit
  rw [integer?.eq_def]
  split
  · exact absurd ‹_› (hnot rfl)
  · exact absurd ‹_› (hnot rfl)
  · exact absurd ‹_› (hnot rfl)
  · rw [hdecimal]
    exact Option.filter_some_eq_some.mpr (by simp; omega)

theorem ofWord?_toDigits {n : Nat} (hn : n < 0x8000000000000000) :
    ofWord? (Nat.toDigits 10 n) = some (.integer n) := by
  have htrue : Nat.toDigits 10 n ≠ "true".toList := fun heq =>
    absurd (isDigit_toDigits (n := n) (c := 't') (by rw [heq]; decide)) (by decide)
  have hfalse : Nat.toDigits 10 n ≠ "false".toList := fun heq =>
    absurd (isDigit_toDigits (n := n) (c := 'f') (by rw [heq]; decide)) (by decide)
  have hdate : Datetime.whole? .value (Nat.toDigits 10 n) = none := by
    rw [← List.append_nil (Nat.toDigits 10 n)]
    exact Datetime.whole?_eq_none (fun _ => isDigit_toDigits) (by simp)
  rw [ofWord?, if_neg htrue, if_neg hfalse, hdate, integer?_toDigits hn]
  rfl

/-- A negative whole number of 64 bits is read off its sign and digits. -/
theorem ofWord?_minus {n : Nat} (hn : n ≤ 0x8000000000000000) :
    ofWord? ('-' :: Nat.toDigits 10 n) = some (.integer (-(n : Int))) := by
  have hinteger : integer? ('-' :: Nat.toDigits 10 n) = some (-(n : Int)) := by
    have hdecimal : decimal? ('-' :: Nat.toDigits 10 n) = some (-(n : Int)) := by
      simp only [decimal?, Decimal.splitSign, wholeDigits?_toDigits, value?_toDigits,
        Option.bind_eq_bind, Option.bind_some]
      rfl
    have hnot : ∀ {base : Char} {cs : List Char}, '-' :: Nat.toDigits 10 n ≠ '0' :: base :: cs :=
      fun heq => absurd (List.cons.inj heq).1 (by decide)
    rw [integer?.eq_def]
    split
    · exact absurd ‹_› hnot
    · exact absurd ‹_› hnot
    · exact absurd ‹_› hnot
    · rw [hdecimal]
      exact Option.filter_some_eq_some.mpr (by simp; omega)
  have htrue : '-' :: Nat.toDigits 10 n ≠ "true".toList := fun heq =>
    absurd (List.cons.inj heq).1 (by decide)
  have hfalse : '-' :: Nat.toDigits 10 n ≠ "false".toList := fun heq =>
    absurd (List.cons.inj heq).1 (by decide)
  rw [ofWord?, if_neg htrue, if_neg hfalse, Datetime.whole?_minus, hinteger]
  rfl

theorem ofWord?_boolean (b : Bool) :
    ofWord? (if b then "true" else "false").toList = some (.boolean b) := by
  cases b <;> rfl

/-- A word that is no date form is not a day. -/
theorem isDay_eq_false {word : List Char} {v : Value} (h : ofWord? word = some v)
    (hv : ∀ d, v ≠ .datetime d) : isDay word = false := by
  rw [isDay, Option.any_eq_false]
  rintro ⟨date, rest⟩ hread
  cases rest with
  | cons => simp
  | nil =>
    have hwhole : Datetime.whole? .value word = some ⟨some date, none, none⟩ := by
      rw [Datetime.whole?, hread]
    rw [ofWord?] at h
    split_ifs at h with htrue hfalse
    · rw [htrue] at hread
      cases hread
    · rw [hfalse] at hread
      cases hread
    · rw [hwhole] at h
      exact absurd (Option.some.inj h).symm (hv _)

/-- A word is read up to its end. -/
theorem read?_word {word rest : List Char} {v : Value}
    (hword : ∀ c ∈ word, isWordChar c = true)
    (hrest : ∀ c, rest.head? = some c → isWordChar c = false)
    (h : ofWord? word = some v) (hv : ∀ d, v ≠ .datetime d) :
    read? (word ++ rest) = some (v, rest) := by
  have htake : (word ++ rest).takeWhile isWordChar = word := by
    rw [List.takeWhile_append_of_pos hword]
    cases rest with
    | nil => simp
    | cons c rest => simp [hrest c rfl]
  have hdrop : (word ++ rest).dropWhile isWordChar = rest := by
    rw [List.dropWhile_append_of_pos hword]
    cases rest with
    | nil => rfl
    | cons c rest => simp [hrest c rfl]
  simp only [read?, htake, hdrop, isDay_eq_false h hv, h, Option.map_some]

end Scalar

end WmConfig.Toml
