import WmConfig.Proofs.Keysym
import WmConfig.Proofs.Text.Bytes

/-! # The codes of keys

Every text of the vocabulary stands for the code of its form, and it stands for one code only
(`code_of_form`). The readers of the five forms exclude one another: no name of the table is of
another form (`not_named`), and the other forms differ in their first letters or their lengths. So
at most one of them reads a text (`length_readings_le`), and they may be tried in any order. -/

namespace WmConfig.Keysym

open Numeral

/-! ### The written forms -/

/-- The letters of the function keys: how many function keys stand before the first one of a letter,
and how many the letter has. -/
def functionLetters : List (Char × Nat × Nat) := [('F', 0, 35), ('L', 10, 10), ('R', 20, 15)]

/-- A printable character of Latin-1. -/
def IsPrintable (n : Nat) : Prop := 0x20 ≤ n ∧ n ≤ 0x7e ∨ 0xa0 ≤ n ∧ n ≤ 0xff

instance (n : Nat) : Decidable (IsPrintable n) := inferInstanceAs (Decidable (_ ∨ _))

/-- **The code that a text of the vocabulary stands for**, zero for hexadecimal digits that denote no
scalar value. -/
inductive StandsFor : String → UInt32 → Prop
  | named {name : String} {k : UInt32} (entry : (name, k) ∈ named) : StandsFor name k
  | function {c : Char} {before count i : Nat} {cs : List Char} {k : UInt32}
      (letter : (c, before, count) ∈ functionLetters) (digits : IsNumeral [] 10 cs i)
      (least : 1 ≤ i) (most : i ≤ count) (value : k.toNat = 0xffbe + (before + i) - 1) :
      StandsFor (String.ofList (c :: cs)) k
  | character {c : Char} {k : UInt32} (printable : IsPrintable c.toNat)
      (value : k.toNat = c.toNat) : StandsFor (String.ofList [c]) k
  | code {cs : List Char} {k : UInt32} (digits : IsNumeral [] 16 cs k.toNat) :
      StandsFor (String.ofList ('0' :: 'x' :: cs)) k
  | latin {cs : List Char} {k : UInt32} (digits : IsNumeral [] 16 cs k.toNat)
      (printable : IsPrintable k.toNat) : StandsFor (String.ofList ('U' :: cs)) k
  | scalar {cs : List Char} {u : Nat} {k : UInt32} (digits : IsNumeral [] 16 cs u)
      (scalar : u.isValidChar) (other : ¬ IsPrintable u) (value : k.toNat = 0x1000000 + u) :
      StandsFor (String.ofList ('U' :: cs)) k
  | noScalar {cs : List Char} {u : Nat} (digits : IsNumeral [] 16 cs u)
      (noScalar : ¬ u.isValidChar) : StandsFor (String.ofList ('U' :: cs)) 0

/-! ### The names -/

/-- The bytes of a name as one number. -/
def nameNumber (name : String) : Nat := (bytes name).foldl (fun n b => n * 256 + b.toNat) 0

/-- Numbers are distinct if those of each remainder are. -/
theorem nodup_of_classes {l : List Nat} {m : Nat} (hm : 0 < m)
    (h : ∀ r < m, (l.filter fun n => Nat.beq (n % m) r).Nodup) : l.Nodup := by
  rw [List.nodup_iff_count_le_one]
  intro a
  have hclass := List.nodup_iff_count_le_one.mp (h (a % m) (Nat.mod_lt a hm)) a
  rwa [List.count_filter (p := fun n => Nat.beq (n % m) (a % m)) (Nat.beq_refl _)] at hclass

/-- The names are distinct. Their numbers are compared within classes, which are small. -/
theorem nodup_names : (named.map Prod.fst).Nodup := by
  have hnumbers : (named.map (nameNumber ·.1)).Nodup :=
    nodup_of_classes (m := 23) (by decide) (by decide +kernel)
  exact List.Nodup.of_map nameNumber (by rwa [List.map_map])

/-- What is of another form is no name: a function key, a character, a code, a scalar value, and any
other hexadecimal number after the letter of the scalar values. -/
theorem not_named {name : String} {k : UInt32} (h : (name, k) ∈ named) :
    function? name.toList = Option.none ∧ character? name.toList = Option.none ∧
      code? name.toList = Option.none ∧ scalar? name.toList = Option.none ∧
      ∀ ds, name.toList = 'U' :: ds → ¬ AreDigits 16 ds := by
  have hall : ∀ p ∈ named, (bytes p.1).all (· < 128) = true ∧
      function? ((bytes p.1).map Char.ofUInt8) = Option.none ∧
      character? ((bytes p.1).map Char.ofUInt8) = Option.none ∧
      code? ((bytes p.1).map Char.ofUInt8) = Option.none ∧
      scalar? ((bytes p.1).map Char.ofUInt8) = Option.none ∧
      (((bytes p.1).map Char.ofUInt8).head? = some 'U' →
        ¬ AreDigits 16 ((bytes p.1).map Char.ofUInt8).tail) := by
    decide +kernel
  obtain ⟨hascii, hfunction, hcharacter, hcode, hscalar, hletter⟩ := hall _ h
  have hlt : ∀ b ∈ bytes name, b < 128 := fun b hb =>
    of_decide_eq_true (List.all_eq_true.mp hascii b hb)
  rw [← toList_of_bytes_lt hlt] at hfunction hcharacter hcode hscalar hletter
  refine ⟨hfunction, hcharacter, hcode, hscalar, fun ds hds => ?_⟩
  rw [hds] at hletter
  exact hletter rfl

/-! ### The readers -/

/-- The readers of the forms. -/
def readers : List (String → Option UInt32) :=
  [fun name => named.lookup name, fun name => function? name.toList,
    fun name => character? name.toList, fun name => code? name.toList,
    fun name => scalar? name.toList]

theorem ofName_eq_findSome? (name : String) :
    ofName name = (readers.findSome? (· name)).getD none := by
  simp only [ofName, readers, List.findSome?_cons, List.findSome?_nil]
  cases named.lookup name <;> cases function? name.toList <;> cases character? name.toList <;>
    cases code? name.toList <;> cases scalar? name.toList <;> rfl

theorem word?_nil (base : Nat) : word? base [] = Option.none := rfl

theorem functionRows_ne : ∀ p ∈ functionRows, p.1 ≠ '0' ∧ p.1 ≠ 'U' := by decide

/-- A function key has a letter of its own and a number behind it. -/
theorem apart_of_function? {cs : List Char} {k : UInt32} (h : function? cs = some k) :
    character? cs = Option.none ∧ code? cs = Option.none ∧ scalar? cs = Option.none := by
  obtain ⟨-, c, count, ds, rfl, hrow, n, hn, -⟩ := function?_eq_some h
  have hletter : c ≠ '0' ∧ c ≠ 'U' := functionRows_ne _ hrow
  refine ⟨?_, ?_, ?_⟩
  · cases ds with
    | nil => cases (word?_nil 10).symm.trans hn
    | cons d ds => rfl
  · exact code?.eq_2 _ fun ds' hds' => hletter.1 (List.cons.inj hds').1
  · exact scalar?.eq_2 _ fun ds' hds' => hletter.2 (List.cons.inj hds').1

/-- A character stands alone. -/
theorem apart_of_character? {cs : List Char} {k : UInt32} (h : character? cs = some k) :
    code? cs = Option.none ∧ scalar? cs = Option.none := by
  obtain ⟨-, c, rfl, -⟩ := character?_eq_some h
  refine ⟨code?.eq_2 _ fun ds hds => ?_, ?_⟩
  · cases (List.cons.inj hds).2
  · by_cases hc : c = 'U'
    · subst hc
      rfl
    · exact scalar?.eq_2 _ fun ds hds => hc (List.cons.inj hds).1

theorem readers_apart (name : String) :
    readers.Pairwise fun f g => ∀ k, f name = some k → g name = Option.none := by
  simp only [readers, List.pairwise_cons, List.forall_mem_cons, List.not_mem_nil, false_imp_iff,
    implies_true, and_true, List.Pairwise.nil]
  refine ⟨⟨fun k hk => ?_, fun k hk => ?_, fun k hk => ?_, fun k hk => ?_⟩,
    ⟨fun k hk => (apart_of_function? hk).1, fun k hk => (apart_of_function? hk).2.1,
      fun k hk => (apart_of_function? hk).2.2⟩,
    ⟨fun k hk => (apart_of_character? hk).1, fun k hk => (apart_of_character? hk).2⟩,
    fun k hk => scalar?_of_code? hk⟩
  all_goals obtain ⟨hfunction, hcharacter, hcode, hscalar, -⟩ := not_named (mem_of_lookup hk)
  · exact hfunction
  · exact hcharacter
  · exact hcode
  · exact hscalar

/-- If each reader shuts out the later ones, then at most one of them reads a text. -/
theorem length_filterMap_le_one {fs : List (String → Option UInt32)} {name : String}
    (h : fs.Pairwise fun f g => ∀ k, f name = some k → g name = Option.none) :
    (fs.filterMap (· name)).length ≤ 1 := by
  induction fs with
  | nil => exact Nat.zero_le 1
  | cons f fs ih =>
    obtain ⟨hf, hfs⟩ := List.pairwise_cons.mp h
    cases hk : f name with
    | none =>
      rw [List.filterMap_cons, hk]
      exact ih hfs
    | some k =>
      rw [List.filterMap_cons, hk, List.filterMap_eq_nil_iff.mpr fun g hg => hf g hg k hk]
      exact Nat.le_refl 1

/-- **At most one form** gives a text a code. -/
theorem length_readings_le (name : String) : (readers.filterMap (· name)).length ≤ 1 :=
  length_filterMap_le_one (readers_apart name)

theorem eq_of_perm_of_length_le_one {α : Type} {l l' : List α} (h : l.Perm l')
    (hlength : l'.length ≤ 1) : l = l' := by
  match l', hlength with
  | [], _ => exact h.eq_nil
  | [_], _ => exact List.perm_singleton.mp h

/-- The readers may be tried in any order. -/
theorem findSome?_of_perm {order : List (String → Option UInt32)} (h : order.Perm readers)
    (name : String) : (order.findSome? (· name)).getD none = ofName name := by
  have hreadings := eq_of_perm_of_length_le_one (h.filterMap (· name)) (length_readings_le name)
  rw [ofName_eq_findSome?, ← List.head?_filterMap, ← List.head?_filterMap, hreadings]

/-- What a reader finds is the code. -/
theorem ofName_of_reader {f : String → Option UInt32} (hf : f ∈ readers) {name : String}
    {k : UInt32} (hk : f name = some k) : ofName name = k := by
  have hmem : k ∈ readers.filterMap (· name) := List.mem_filterMap.mpr ⟨f, hf, hk⟩
  obtain ⟨k', hk'⟩ := List.length_eq_one_iff.mp
    (Nat.le_antisymm (length_readings_le name) (List.length_pos_of_mem hmem))
  rw [hk', List.mem_singleton] at hmem
  rw [ofName_eq_findSome?, ← List.head?_filterMap, hk', hmem]
  rfl

/-! ### The codes -/

theorem functionRow?_of_mem {c : Char} {before count : Nat}
    (h : (c, before, count) ∈ functionLetters) :
    functionRow? c = some (before, count) ∧ before + count ≤ 35 := by
  have hall : ∀ p ∈ functionLetters, functionRow? p.1 = some p.2 ∧ p.2.1 + p.2.2 ≤ 35 := by decide
  exact hall _ h

theorem function?_of_letter {c : Char} {before count i : Nat} {cs : List Char} {k : UInt32}
    (hletter : (c, before, count) ∈ functionLetters) (hcs : IsNumeral [] 10 cs i)
    (hleast : 1 ≤ i) (hmost : i ≤ count) (hk : k.toNat = 0xffbe + (before + i) - 1) :
    function? (c :: cs) = some k := by
  obtain ⟨hrow, hlast⟩ := functionRow?_of_mem hletter
  have hword := word?_of_isNumeral (.inl rfl) (by decide)
    (Nat.lt_of_le_of_lt (show i ≤ 35 by omega) (by decide)) hcs
  have hcodes : ∀ m < 35, (firstFunctionKey + UInt32.ofNat m).toNat = 0xffbe + m := by decide
  have hcode : firstFunctionKey + UInt32.ofNat (before + i - 1) = k := by
    rw [← UInt32.toNat_inj, hcodes _ (by omega), hk]
    omega
  simp [function?, hrow, hword, Option.filter_some, hleast, hmost, hcode]

theorem isLatin_iff {n : Nat} : isLatin n = true ↔ IsPrintable n := by
  simp [isLatin, IsPrintable]

theorem IsPrintable.isValidChar {n : Nat} (h : IsPrintable n) : n.isValidChar :=
  .inl (by unfold IsPrintable at h; omega)

theorem ofScalar_of_printable {k : UInt32} (h : IsPrintable k.toNat) : ofScalar k.toNat = k := by
  rw [ofScalar, if_pos (isLatin_iff.mpr h), UInt32.ofNat_toNat]

theorem ofScalar_of_not_printable {u : Nat} {k : UInt32} (h : ¬ IsPrintable u)
    (hk : k.toNat = 0x1000000 + u) : ofScalar u = k := by
  rw [ofScalar, if_neg (isLatin_iff.not.mpr h), unicodeOffset_add, ← hk, UInt32.ofNat_toNat]

theorem scalar?_of_isNumeral {u : Nat} {cs : List Char} (hcs : IsNumeral [] 16 cs u)
    (hscalar : u.isValidChar) : scalar? ('U' :: cs) = some (ofScalar u) := by
  have hword := word?_of_isNumeral (.inl rfl) (Nat.le_refl 16)
    (Nat.lt_trans (isValidChar_lt hscalar) (by decide)) hcs
  simp [scalar?, hword, Option.filter_some, hscalar]

/-- Digits that denote no scalar value give no reader a code. -/
theorem ofName_of_noScalar {u : Nat} {cs : List Char} (hcs : IsNumeral [] 16 cs u)
    (h : ¬ u.isValidChar) : ofName (String.ofList ('U' :: cs)) = none := by
  obtain ⟨ds, hds, hne, hdigits, rfl⟩ := hcs
  obtain rfl : cs = ds := hds
  by_contra hcode
  rcases (ofName_ne_none_iff_forms _).mp hcode with ⟨k, hk⟩ | ⟨c, _, ds, htoList, hrow, -⟩ |
    ⟨c, htoList, -⟩ | ⟨ds, htoList, -⟩ | ⟨ds, htoList, n, hn, hscalar⟩
  · exact (not_named hk).2.2.2.2 cs String.toList_ofList hdigits
  · rw [String.toList_ofList] at htoList
    obtain ⟨rfl, -⟩ := List.cons.inj htoList
    exact absurd rfl (functionRows_ne _ hrow).2
  · rw [String.toList_ofList] at htoList
    exact hne (List.cons.inj htoList).2
  · rw [String.toList_ofList] at htoList
    exact absurd (List.cons.inj htoList).1 (by decide)
  · rw [String.toList_ofList] at htoList
    obtain ⟨-, rfl⟩ := List.cons.inj htoList
    rcases ((word?_eq_some_iff (Nat.le_refl 16)).mp hn).2 with ⟨ds, hds, -, -, rfl⟩ | ⟨ds, rfl, -⟩
    · obtain rfl : cs = ds := hds
      exact h hscalar
    · exact absurd (hdigits '+' List.mem_cons_self) (by decide)

/-- **The code of a text is that of its form.** -/
theorem ofName_of_standsFor {name : String} {k : UInt32} (h : StandsFor name k) :
    ofName name = k := by
  cases h with
  | named entry =>
    exact ofName_of_reader (f := fun name => named.lookup name) (by simp [readers])
      ((lookup_eq_some_iff nodup_names).mpr entry)
  | function letter digits least most value =>
    refine ofName_of_reader (f := fun name => function? name.toList) (by simp [readers]) ?_
    rw [String.toList_ofList]
    exact function?_of_letter letter digits least most value
  | @character c _ printable value =>
    refine ofName_of_reader (f := fun name => character? name.toList) (by simp [readers]) ?_
    rw [String.toList_ofList, character?, if_pos (isLatin_iff.mpr printable), ← value,
      UInt32.ofNat_toNat]
  | code digits =>
    refine ofName_of_reader (f := fun name => code? name.toList) (by simp [readers]) ?_
    rw [String.toList_ofList, code?,
      word?_of_isNumeral (.inl rfl) (Nat.le_refl 16) k.toNat_lt digits, Option.map_some,
      UInt32.ofNat_toNat]
  | latin digits printable =>
    refine ofName_of_reader (f := fun name => scalar? name.toList) (by simp [readers]) ?_
    rw [String.toList_ofList, scalar?_of_isNumeral digits printable.isValidChar,
      ofScalar_of_printable printable]
  | scalar digits scalar other value =>
    refine ofName_of_reader (f := fun name => scalar? name.toList) (by simp [readers]) ?_
    rw [String.toList_ofList, scalar?_of_isNumeral digits scalar,
      ofScalar_of_not_printable other value]
  | noScalar digits noScalar => exact ofName_of_noScalar digits noScalar

/-- **Each text of the vocabulary has its code**, and only one. The keys of the later letters are
function keys further on, and the forms may be tried in any order, for all texts. -/
theorem code_of_form :
    (∀ name k, StandsFor name k → ofName name = k) ∧
    (∀ name k k', StandsFor name k → StandsFor name k' → k = k') ∧
    (∀ c before count i cs ds, (c, before, count) ∈ functionLetters → 1 ≤ i → i ≤ count →
      IsNumeral [] 10 cs i → IsNumeral [] 10 ds (before + i) →
      ofName (String.ofList (c :: cs)) = ofName (String.ofList ('F' :: ds))) ∧
    ∀ name (order : List (String → Option UInt32)), order.Perm readers →
      (order.findSome? (· name)).getD none = ofName name := by
  refine ⟨fun name k => ofName_of_standsFor, fun name k k' h h' => ?_, ?_,
    fun name order h => findSome?_of_perm h name⟩
  · exact (ofName_of_standsFor h).symm.trans (ofName_of_standsFor h')
  · intro c before count i cs ds hletter hleast hmost hcs hds
    have hlast := (functionRow?_of_mem hletter).2
    have hvalue : (UInt32.ofNat (0xffbe + (before + i) - 1)).toNat = 0xffbe + (before + i) - 1 :=
      UInt32.toNat_ofNat_of_lt' (Nat.lt_of_le_of_lt
        (show 0xffbe + (before + i) - 1 ≤ 0xffbe + 35 by omega) (by decide))
    have hfirst : ('F', 0, 35) ∈ functionLetters := List.mem_cons_self
    rw [ofName_of_standsFor (.function hletter hcs hleast hmost hvalue),
      ofName_of_standsFor (.function hfirst hds (by omega) (by omega) (by rw [hvalue]; omega))]

/-- A name that starts like a scalar value, a function key with a zero in front, digits in both cases,
and half of a surrogate pair. -/
theorem code_of_form_each :
    ofName "Uacute" = 0xda ∧ ofName "L07" = ofName "F17" ∧ ofName "0x00fF" = 0xff ∧
      ofName "U20aC" = 0x10020ac ∧ ofName "Ud800" = none ∧
      (readers.reverse.findSome? (· "F")).getD none = ofName "F" := by
  obtain ⟨hcode, -, hletters, horder⟩ := code_of_form
  have hseven : IsNumeral [] 10 ['0', '7'] 7 := ⟨_, rfl, by decide, by decide, by decide⟩
  have hseventeen : IsNumeral [] 10 ['1', '7'] (10 + 7) := ⟨_, rfl, by decide, by decide, by decide⟩
  have hcase : IsNumeral [] 16 ['0', '0', 'f', 'F'] (0xff : UInt32).toNat :=
    ⟨_, rfl, by decide, by decide, by decide⟩
  have heuro : IsNumeral [] 16 ['2', '0', 'a', 'C'] 0x20ac :=
    ⟨_, rfl, by decide, by decide, by decide⟩
  have hsurrogate : IsNumeral [] 16 ['d', '8', '0', '0'] 0xd800 :=
    ⟨_, rfl, by decide, by decide, by decide⟩
  exact ⟨hcode _ _ (.named (by decide +kernel)),
    hletters 'L' 10 10 7 _ _ (by decide) (by decide) (by decide) hseven hseventeen,
    hcode _ _ (.code hcase), hcode _ _ (.scalar heuro (by decide) (by decide) (by decide)),
    hcode _ _ (.noScalar hsurrogate (by decide)),
    horder "F" readers.reverse (List.reverse_perm readers)⟩

end WmConfig.Keysym
