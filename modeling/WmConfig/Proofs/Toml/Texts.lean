import Mathlib.Data.List.TakeWhile
import WmConfig.Proofs.Toml.Spelling

/-! # Texts in all their spellings

A text may stand between double quotes or single ones, on one line or over several. `Spelling` gives
what may stand for a text in each of the four ways, and the reader takes just these for the text:
each is read as the text (`read?_spelling`), and what is read as a text is one of them
(`exists_spelling`). An escape that stands for no character is a fault, whatever comes after it
(`read?_misspelling`). -/

namespace WmConfig.Toml.Quoted

/-! ### Escapes -/

/-- An escape for a character. -/
inductive Escape : Char → List Char → Prop
  | letter {e c : Char} (h : (e, c) ∈ escapes) : Escape c ['\\', e]
  | four {a₁ a₂ a₃ a₄ c : Char} (h : Numeral.value? 16 [a₁, a₂, a₃, a₄] = some c.toNat) :
      Escape c ['\\', 'u', a₁, a₂, a₃, a₄]
  | eight {a₁ a₂ a₃ a₄ a₅ a₆ a₇ a₈ c : Char}
      (h : Numeral.value? 16 [a₁, a₂, a₃, a₄, a₅, a₆, a₇, a₈] = some c.toNat) :
      Escape c ['\\', 'U', a₁, a₂, a₃, a₄, a₅, a₆, a₇, a₈]

/-- An escape that stands for no character. -/
inductive NoEscape : List Char → Prop
  | letter {e : Char} (hu : e ≠ 'u') (hU : e ≠ 'U') (hwhite : isSwallowed e = false)
      (h : ∀ c : Char, (e, c) ∉ escapes) : NoEscape ['\\', e]
  | four {a₁ a₂ a₃ a₄ : Char} (h : ∀ c : Char, Numeral.value? 16 [a₁, a₂, a₃, a₄] ≠ some c.toNat) :
      NoEscape ['\\', 'u', a₁, a₂, a₃, a₄]
  | eight {a₁ a₂ a₃ a₄ a₅ a₆ a₇ a₈ : Char}
      (h : ∀ c : Char, Numeral.value? 16 [a₁, a₂, a₃, a₄, a₅, a₆, a₇, a₈] ≠ some c.toNat) :
      NoEscape ['\\', 'U', a₁, a₂, a₃, a₄, a₅, a₆, a₇, a₈]

theorem scalar?_eq_some_iff {digits : List Char} {c : Char} :
    scalar? digits = some c ↔ Numeral.value? 16 digits = some c.toNat := by
  refine ⟨fun h => ?_, scalar?_eq_some⟩
  obtain ⟨n, hn, rfl⟩ := Option.map_eq_some_iff.mp h
  obtain ⟨hvalue, hvalid⟩ := Option.filter_eq_some_iff.mp hn
  rw [hvalue, Char.ofNat, dif_pos (of_decide_eq_true hvalid)]
  rfl

theorem escaped?_eq_some_iff {e c : Char} : escaped? e = some c ↔ (e, c) ∈ escapes := by
  refine ⟨fun h => ?_, fun h => (escaped?_of_mem _ h).2.2⟩
  rw [escaped?.eq_def] at h
  split at h <;> cases h <;> decide

theorem scalar?_eq_none {digits : List Char}
    (h : ∀ c : Char, Numeral.value? 16 digits ≠ some c.toNat) : scalar? digits = none :=
  Option.eq_none_iff_forall_ne_some.mpr fun c hc => h c (scalar?_eq_some_iff.mp hc)

theorem escaped?_eq_none {e : Char} (h : ∀ c : Char, (e, c) ∉ escapes) : escaped? e = none :=
  Option.eq_none_iff_forall_ne_some.mpr fun c hc => h c (escaped?_eq_some_iff.mp hc)

theorem prepend_eq_some {c : Option Char} {read : Option (List Char × List Char)}
    {content rest : List Char} : prepend c read = some (content, rest) ↔
      ∃ c' content', c = some c' ∧ read = some (content', rest) ∧ content = c' :: content' := by
  unfold prepend
  cases c <;> cases read <;> simp [Prod.ext_iff, eq_comm, and_assoc, and_comm]

/-! ### Between quotes on one line -/

section OneLine
variable {c : Char} {text esc spelling cs rest : List Char}

theorem NoEscape.basic? (h : NoEscape esc) (rest : List Char) : basic? (esc ++ rest) = none := by
  cases h with
  | letter hu hU _ h =>
    rw [List.cons_append, List.cons_append, basic?.eq_5 _ _ (fun _ _ _ _ _ h => absurd h hu)
      (fun _ _ _ _ _ _ _ _ _ h => absurd h hU), escaped?_eq_none h]
    rfl
  | four h | eight h =>
    simp only [List.cons_append, Quoted.basic?, scalar?_eq_none h]
    rfl

/-- What is read in front of a fault does not mend it. -/
theorem Spells.basic?_eq_none (h : Spells text spelling) (hrest : Quoted.basic? rest = none) :
    Quoted.basic? (spelling ++ rest) = none := by
  have hprepend : ∀ c, prepend c none = none := fun c => by cases c <;> rfl
  induction h with
  | nil => exact hrest
  | plain htext hquote hback _ ih =>
    rw [List.cons_append, basic?.eq_6 _ _ hquote (by simp [hback]) (by simp [hback])
      (by simp [hback]), ih, ite_self, hprepend]
  | @letter e c _ _ he _ ih =>
    obtain ⟨hu, hU, -⟩ := escaped?_of_mem (e, c) he
    rw [List.cons_append, List.cons_append, basic?.eq_5 _ _
      (fun _ _ _ _ _ h => absurd h hu) (fun _ _ _ _ _ _ _ _ _ h => absurd h hU), ih, hprepend]
  | four _ _ ih | eight _ _ ih =>
    simp only [List.cons_append, Quoted.basic?, ih, hprepend]

/-- **Only spellings are read** between double quotes. -/
theorem exists_spells_of_basic? : ∀ {text : List Char}, basic? cs = some (text, rest) →
    ∃ spelling, cs = spelling ++ '\x22' :: rest ∧ Spells text spelling := by
  induction cs using basic?.induct with
  | case1 => exact nofun
  | case2 rest =>
    rintro text ⟨⟩
    exact ⟨[], rfl, .nil⟩
  | case3 a b c d cs ih =>
    intro text h
    rw [basic?] at h
    obtain ⟨x, text', hx, hread, rfl⟩ := prepend_eq_some.mp h
    obtain ⟨spelling, rfl, hspells⟩ := ih hread
    exact ⟨_, rfl, .four (scalar?_eq_some_iff.mp hx) hspells⟩
  | case4 a b c d e f g h cs ih =>
    intro text h
    rw [basic?] at h
    obtain ⟨x, text', hx, hread, rfl⟩ := prepend_eq_some.mp h
    obtain ⟨spelling, rfl, hspells⟩ := ih hread
    exact ⟨_, rfl, .eight (scalar?_eq_some_iff.mp hx) hspells⟩
  | case5 e cs hu hU ih =>
    intro text h
    rw [basic?.eq_5 _ _ hu hU] at h
    obtain ⟨x, text', hx, hread, rfl⟩ := prepend_eq_some.mp h
    obtain ⟨spelling, rfl, hspells⟩ := ih hread
    exact ⟨_, rfl, .letter (escaped?_eq_some_iff.mp hx) hspells⟩
  | case6 c cs hquote hu hU hback ih =>
    intro text h
    rw [basic?.eq_6 _ _ hquote hu hU hback] at h
    obtain ⟨x, text', hx, hread, rfl⟩ := prepend_eq_some.mp h
    obtain rfl := Option.some.inj hx
    split_ifs at hread with htext
    obtain ⟨spelling, rfl, hspells⟩ := ih hread
    refine ⟨_, rfl, .plain htext hquote ?_ hspells⟩
    -- A lone backslash would need a further character, and the closing quote is one.
    rintro rfl
    cases spelling with
    | nil => exact hback _ _ rfl rfl
    | cons d spelling => exact hback _ _ rfl rfl

theorem literal?_eq_some_iff : literal? cs = some (text, rest) ↔
    cs = text ++ '\'' :: rest ∧ ∀ c ∈ text, (isText c && c != '\'') = true := by
  constructor
  · intro h
    have hsplit := List.takeWhile_append_dropWhile (p := fun c => isText c && c != '\'') (l := cs)
    simp only [literal?] at h
    split at h
    · next heq =>
      obtain ⟨rfl, rfl⟩ := Prod.mk.inj (Option.some.inj h)
      rw [heq] at hsplit
      exact ⟨hsplit.symm, fun c hc => List.all_eq_true.mp List.all_takeWhile c hc⟩
    · cases h
  · rintro ⟨rfl, htext⟩
    have htake : (text ++ '\'' :: rest).takeWhile (fun c => isText c && c != '\'') = text := by
      rw [List.takeWhile_append_of_pos htext, List.takeWhile_cons_of_neg (by simp), List.append_nil]
    have hdrop : (text ++ '\'' :: rest).dropWhile (fun c => isText c && c != '\'') =
        '\'' :: rest := by
      rw [List.dropWhile_append_of_pos htext, List.dropWhile_cons_of_neg (by simp)]
    simp only [literal?, htake, hdrop]

end OneLine

/-! ### Over several lines -/

/-- A text over several lines and a spelling of it, in front of `stop`: the characters themselves,
as long as no three of the quotes stand in a row, and between double quotes any of the escapes. There
a backslash may stand before white space with a line end in it, which is not in the text. -/
inductive SpellsLines (quote : Char) (stop : List Char) : List Char → List Char → Prop
  | nil : SpellsLines quote stop [] stop
  | plain {c : Char} {text spelling : List Char} (htext : (isText c || c == '\n') = true)
      (hback : quote = '\x22' → c ≠ '\\') (hrow : ¬ List.replicate 3 quote <+: c :: spelling)
      (h : SpellsLines quote stop text spelling) :
      SpellsLines quote stop (c :: text) (c :: spelling)
  | escape {c : Char} {text esc spelling : List Char} (hquote : quote = '\x22')
      (he : Escape c esc) (h : SpellsLines quote stop text spelling) :
      SpellsLines quote stop (c :: text) (esc ++ spelling)
  | lineEnd {text white spelling : List Char} (hquote : quote = '\x22')
      (hwhite : ∀ c ∈ white, isSwallowed c = true) (hfeed : '\n' ∈ white)
      (hnext : ∀ c, spelling.head? = some c → isSwallowed c = false)
      (h : SpellsLines quote stop text spelling) :
      SpellsLines quote stop text ('\\' :: (white ++ spelling))

namespace SpellsLines

variable {quote : Char} {stop text spelling : List Char}

theorem length_le (h : SpellsLines quote stop text spelling) : stop.length ≤ spelling.length := by
  induction h with
  | nil => exact Nat.le_refl _
  | plain _ _ _ _ ih => exact Nat.le_succ_of_le ih
  | escape _ _ _ ih => exact Nat.le_trans ih (by simp)
  | lineEnd _ _ _ _ _ ih => exact Nat.le_trans ih (by simp; omega)

/-- More may stand after three quotes. -/
theorem append (h : SpellsLines quote stop text spelling) (hstop : 3 ≤ stop.length)
    (rest : List Char) : SpellsLines quote (stop ++ rest) text (spelling ++ rest) := by
  induction h with
  | nil => exact .nil
  | plain htext hback hrow h ih =>
    refine .plain htext hback (fun hprefix => hrow ?_) ih
    refine List.prefix_of_prefix_length_le hprefix (List.prefix_append _ rest) ?_
    have := h.length_le
    simp only [List.length_replicate, List.length_cons]
    omega
  | escape hquote he _ ih =>
    rw [List.append_assoc]
    exact .escape hquote he ih
  | lineEnd hquote hwhite hfeed hnext h ih =>
    rw [List.cons_append, List.append_assoc]
    refine .lineEnd hquote hwhite hfeed (fun c hc => hnext c ?_) ih
    have hne := List.length_pos_iff.mp (Nat.lt_of_lt_of_le (by omega) h.length_le)
    rwa [List.head?_append_of_ne_nil _ hne] at hc

end SpellsLines

/-! ### Rows of quotes -/

section Rows
variable {quote : Char} {k : Nat} {cs rest content : List Char}

theorem exists_eq_replicate (quote : Char) (cs : List Char) : ∃ n rest,
    cs.takeWhile (· == quote) = List.replicate n quote ∧ cs = List.replicate n quote ++ rest ∧
      rest.head? ≠ some quote := by
  have htake : cs.takeWhile (· == quote) =
      List.replicate (cs.takeWhile (· == quote)).length quote :=
    List.eq_replicate_iff.mpr ⟨rfl, fun c hc => by simpa using List.mem_takeWhile_imp hc⟩
  refine ⟨_, cs.dropWhile (· == quote), htake, ?_, fun hhead => ?_⟩
  · rw [← htake, List.takeWhile_append_dropWhile]
  · have hnot := List.head?_dropWhile_not (· == quote) cs
    rw [hhead] at hnot
    simp at hnot

theorem closing?_eq_none_iff : closing? quote cs = none ↔ ¬ List.replicate 3 quote <+: cs := by
  obtain ⟨n, rest, htake, rfl, hrest⟩ := exists_eq_replicate quote cs
  rw [closing?, htake, List.length_replicate]
  constructor
  · intro h hprefix
    have hn : n < 3 := by
      by_contra hn
      rw [if_pos (by omega)] at h
      cases h
    have hrow : List.replicate 3 quote = List.replicate n quote ++ List.replicate (3 - n) quote := by
      rw [List.replicate_append_replicate, Nat.add_sub_of_le hn.le]
    rw [hrow, List.prefix_append_right_inj] at hprefix
    obtain ⟨m, hm⟩ : ∃ m, 3 - n = m + 1 := ⟨2 - n, by omega⟩
    rw [hm, List.replicate_succ] at hprefix
    obtain ⟨after, rfl⟩ := hprefix
    exact hrest rfl
  · refine fun h => if_neg fun hrow => h (List.IsPrefix.trans ?_ (List.prefix_append _ rest))
    rw [List.prefix_replicate_iff, List.length_replicate]
    exact ⟨by omega, rfl⟩

theorem closing?_row (hk : k ≤ 2) (hrest : rest.head? ≠ some quote ∨ k = 2) :
    closing? quote (List.replicate (k + 3) quote ++ rest) =
      some (List.replicate k quote, rest) := by
  have hrow : min ((List.replicate (k + 3) quote ++ rest).takeWhile (· == quote)).length 5 =
      k + 3 := by
    rw [List.takeWhile_append_of_pos (by simp), List.length_append, List.length_replicate]
    rcases hrest with hrest | rfl
    · have hnil : rest.takeWhile (· == quote) = [] := by
        cases rest with
        | nil => rfl
        | cons c rest => exact List.takeWhile_cons_of_neg (by simpa using hrest)
      rw [hnil, List.length_nil]
      omega
    · omega
  simp only [closing?, hrow]
  rw [if_pos (by omega), Nat.add_sub_cancel, List.drop_left' (by simp)]

theorem exists_row_of_closing? (h : closing? quote cs = some (content, rest)) :
    ∃ k ≤ 2, content = List.replicate k quote ∧ cs = List.replicate (k + 3) quote ++ rest ∧
      (rest.head? ≠ some quote ∨ k = 2) := by
  obtain ⟨n, after, htake, rfl, hafter⟩ := exists_eq_replicate quote cs
  simp only [closing?, htake, List.length_replicate] at h
  split_ifs at h with hrow
  obtain ⟨rfl, rfl⟩ := Prod.mk.inj (Option.some.inj h)
  have hle : min n 5 ≤ (List.replicate n quote).length := by
    rw [List.length_replicate]
    exact Nat.min_le_left n 5
  rw [List.drop_append_of_le_length hle, List.drop_replicate]
  refine ⟨min n 5 - 3, by omega, rfl, ?_, ?_⟩
  · rw [← List.append_assoc, List.replicate_append_replicate]
    congr 2
    omega
  by_cases hn : n ≤ 5
  · rw [Nat.min_eq_left hn, Nat.sub_self]
    exact .inl hafter
  · exact .inr (by omega)

end Rows

/-! ### Reading over several lines -/

theorem prepend_some (c : Char) (read : Option (List Char × List Char)) :
    prepend (some c) read = read.map fun read => (c :: read.1, read.2) := by
  cases read <;> rfl

section MultiBasic
variable {b : Bool} {c : Char} {white cs rest text esc spelling stop : List Char}

/-- A backslash before a character that starts no numbered escape. -/
theorem multiBasic?_back (hu : c ≠ 'u') (hU : c ≠ 'U') (swallowing : Bool) (rest : List Char) :
    multiBasic? swallowing ('\\' :: c :: rest) =
      if endsLine (c :: rest) = true then multiBasic? true rest
      else prepend (escaped? c) (multiBasic? false rest) := by
  rw [multiBasic?.eq_4 _ _ _ _ (fun _ _ _ _ _ h => absurd h hu)
    (fun _ _ _ _ _ _ _ _ _ h => absurd h hU), if_neg (by simp [isSwallowed]), if_pos rfl]

/-- A character that is neither swallowed nor a backslash. -/
theorem multiBasic?_plain (hswallow : ¬(b && isSwallowed c) = true) (hback : c ≠ '\\')
    (rest : List Char) : multiBasic? b (c :: rest) =
      match closing? '\x22' (c :: rest) with
      | some read => some read
      | none =>
        prepend (some c) (if isText c || c == '\n' then multiBasic? false rest else none) := by
  rw [multiBasic?.eq_def]
  simp only [hswallow, hback]
  rfl

theorem isSwallowed_of_endsLine (h : endsLine (c :: cs) = true) : isSwallowed c = true := by
  rw [endsLine, List.dropWhile_cons] at h
  split_ifs at h with hc
  · rw [isSwallowed, hc, Bool.true_or]
  · rw [isSwallowed, Option.some.inj (beq_iff_eq.mp h)]
    rfl

theorem ne_of_isSwallowed (h : isSwallowed c = true) : c ≠ 'u' ∧ c ≠ 'U' ∧ c ≠ '\\' := by
  simp only [isSwallowed, Bool.or_eq_true, beq_iff_eq] at h
  rcases h with (rfl | rfl) | rfl <;> decide

theorem endsLine_white (hwhite : ∀ c ∈ white, isSwallowed c = true) (hfeed : '\n' ∈ white)
    (rest : List Char) : endsLine (white ++ rest) = true := by
  induction white with
  | nil => cases hfeed
  | cons c white ih =>
    obtain ⟨hc, hwhite⟩ := List.forall_mem_cons.mp hwhite
    rw [List.cons_append, endsLine, List.dropWhile_cons]
    split_ifs with hblank
    · refine ih hwhite ((List.mem_cons.mp hfeed).resolve_left ?_)
      rintro rfl
      cases hblank
    · rw [isSwallowed, Bool.or_eq_true] at hc
      rw [List.head?_cons, beq_iff_eq.mp (hc.resolve_left hblank)]
      rfl

theorem feed_mem_of_endsLine (hwhite : ∀ c ∈ white, isSwallowed c = true)
    (hnext : ∀ c, rest.head? = some c → isSwallowed c = false)
    (h : endsLine (white ++ rest) = true) : '\n' ∈ white := by
  induction white with
  | nil =>
    cases rest with
    | nil => cases h
    | cons c rest => exact absurd (isSwallowed_of_endsLine h) (by simp [hnext c rfl])
  | cons c white ih =>
    obtain ⟨hc, hwhite⟩ := List.forall_mem_cons.mp hwhite
    rw [List.cons_append, endsLine, List.dropWhile_cons] at h
    split_ifs at h with hblank
    · exact List.mem_cons_of_mem _ (ih hwhite h)
    · rw [Option.some.inj (beq_iff_eq.mp h)]
      exact List.mem_cons_self

theorem multiBasic?_white (hwhite : ∀ c ∈ white, isSwallowed c = true)
    (hnext : ∀ c, rest.head? = some c → isSwallowed c = false) :
    multiBasic? true (white ++ rest) = multiBasic? false rest := by
  induction white with
  | nil =>
    cases rest with
    | nil => rfl
    | cons c rest =>
      rw [List.nil_append, multiBasic?.eq_def, multiBasic?.eq_def false]
      simp only [hnext c rfl, Bool.and_false, Bool.false_eq_true]
  | cons c white ih =>
    obtain ⟨hc, hwhite⟩ := List.forall_mem_cons.mp hwhite
    rw [List.cons_append, multiBasic?.eq_def]
    simp only [hc, Bool.and_self, if_true, ih hwhite]

theorem Escape.multiBasic? (he : Escape c esc) (b : Bool) (rest : List Char) :
    multiBasic? b (esc ++ rest) = prepend (some c) (Quoted.multiBasic? false rest) := by
  have hback : ¬(b && isSwallowed '\\') = true := by simp [isSwallowed]
  cases he with
  | @letter e c h =>
    obtain ⟨hu, hU, hescaped⟩ := escaped?_of_mem (e, c) h
    have hends : ¬ endsLine (e :: rest) = true := by
      have hletters : ∀ p ∈ escapes, ¬ isSwallowed p.1 = true := by decide
      exact fun hends => hletters _ h (isSwallowed_of_endsLine hends)
    rw [List.cons_append, List.cons_append, List.nil_append, multiBasic?_back hu hU, if_neg hends,
      hescaped]
  | four h | eight h =>
    simp only [List.cons_append, List.nil_append]
    rw [Quoted.multiBasic?, if_neg hback, if_pos rfl, scalar?_eq_some h]

theorem NoEscape.multiBasic? (he : NoEscape esc) (b : Bool) (rest : List Char) :
    multiBasic? b (esc ++ rest) = none := by
  have hback : ¬(b && isSwallowed '\\') = true := by simp [isSwallowed]
  cases he with
  | @letter e hu hU hwhite h =>
    have hends : ¬ endsLine (e :: rest) = true := fun hends => by
      rw [isSwallowed_of_endsLine hends] at hwhite
      cases hwhite
    rw [List.cons_append, List.cons_append, List.nil_append, multiBasic?_back hu hU, if_neg hends,
      escaped?_eq_none h]
    rfl
  | four h | eight h =>
    simp only [List.cons_append, List.nil_append]
    rw [Quoted.multiBasic?, if_neg hback, if_pos rfl, scalar?_eq_none h]
    rfl

/-- **A spelling is read as its text**, and reading goes on behind it. -/
theorem SpellsLines.multiBasic? (h : SpellsLines '\x22' stop text spelling) :
    multiBasic? false spelling =
      (Quoted.multiBasic? false stop).map fun read => (text ++ read.1, read.2) := by
  induction h with
  | nil => exact Option.map_id'.symm
  | plain htext hback hrow _ ih =>
    rw [multiBasic?_plain (by simp) (hback rfl), closing?_eq_none_iff.mpr hrow]
    simp only [htext, if_true, ih, prepend_some, Option.map_map]
    rfl
  | escape _ he _ ih =>
    rw [he.multiBasic?, ih, prepend_some, Option.map_map]
    rfl
  | @lineEnd text white spelling _ hwhite hfeed hnext _ ih =>
    cases white with
    | nil => cases hfeed
    | cons c white =>
      obtain ⟨hc, hwhite'⟩ := List.forall_mem_cons.mp hwhite
      obtain ⟨hu, hU, -⟩ := ne_of_isSwallowed hc
      have hends : endsLine (c :: (white ++ spelling)) = true :=
        endsLine_white hwhite hfeed spelling
      rw [List.cons_append, multiBasic?_back hu hU, if_pos hends, multiBasic?_white hwhite' hnext,
        ih]

/-- The closing quotes of a text over several lines, and what they make of the text. -/
def Closes (quote : Char) (text spelling rest : List Char) : Prop :=
  ∃ k ≤ 2, ∃ front, text = front ++ List.replicate k quote ∧
    SpellsLines quote (List.replicate (k + 3) quote) front spelling ∧
      (rest.head? ≠ some quote ∨ k = 2)

namespace Closes

variable {quote : Char}

theorem row {k : Nat} (hk : k ≤ 2) (hrest : rest.head? ≠ some quote ∨ k = 2) :
    Closes quote (List.replicate k quote) (List.replicate (k + 3) quote) rest :=
  ⟨k, hk, [], rfl, .nil, hrest⟩

/-- What may stand in front of a spelling may stand in front of one that closes. -/
theorem cons (pre : List Char) {spelling' : List Char} (h : Closes quote text spelling rest)
    (hcons : ∀ {stop front}, SpellsLines quote stop front spelling →
      SpellsLines quote stop (pre ++ front) spelling') :
    Closes quote (pre ++ text) spelling' rest := by
  obtain ⟨k, hk, front, rfl, hspells, hrest⟩ := h
  exact ⟨k, hk, pre ++ front, (List.append_assoc _ _ _).symm, hcons hspells, hrest⟩

theorem ne_nil (h : Closes quote text spelling rest) : spelling ≠ [] := by
  obtain ⟨k, -, front, -, hspells, -⟩ := h
  have hlength := hspells.length_le
  rw [List.length_replicate] at hlength
  exact List.length_pos_iff.mp (by omega)

end Closes

/-- A text that closes between threefold double quotes, behind the white space that is swallowed. -/
def ClosesBehind (swallowing : Bool) (text cs rest : List Char) : Prop :=
  ∃ white spelling, cs = white ++ (spelling ++ rest) ∧ (∀ c ∈ white, isSwallowed c = true) ∧
    (swallowing = false → white = []) ∧
    (swallowing = true → ∀ c, spelling.head? = some c → isSwallowed c = false) ∧
    Closes '\x22' text spelling rest

namespace ClosesBehind

theorem of_closes {c : Char} (hc : b = true → isSwallowed c = false)
    (h : Closes '\x22' text (c :: spelling) rest) :
    ClosesBehind b text (c :: (spelling ++ rest)) rest :=
  ⟨[], c :: spelling, rfl, by simp, fun _ => rfl, by rintro hb _ ⟨⟩; exact hc hb, h⟩

theorem closes (h : ClosesBehind false text cs rest) :
    ∃ spelling, cs = spelling ++ rest ∧ Closes '\x22' text spelling rest := by
  obtain ⟨white, spelling, rfl, -, hnil, -, hcloses⟩ := h
  obtain rfl := hnil rfl
  exact ⟨spelling, rfl, hcloses⟩

theorem escape {c : Char} {esc : List Char} (he : Escape c esc)
    (h : ClosesBehind false text cs rest) : ClosesBehind b (c :: text) (esc ++ cs) rest := by
  obtain ⟨spelling, rfl, hcloses⟩ := h.closes
  have hcloses' := hcloses.cons [c] (.escape rfl he)
  cases he <;> exact of_closes (fun _ => rfl) hcloses'

theorem swallow (hc : isSwallowed c = true) (h : ClosesBehind true text cs rest) :
    ClosesBehind true text (c :: cs) rest := by
  obtain ⟨white, spelling, rfl, hwhite, -, hnext, hcloses⟩ := h
  exact ⟨c :: white, spelling, rfl, List.forall_mem_cons.mpr ⟨hc, hwhite⟩, nofun, hnext, hcloses⟩

/-- A backslash before the end of the line, and what it swallows. -/
theorem lineEnd (hends : endsLine (c :: cs) = true) (h : ClosesBehind true text cs rest) :
    ClosesBehind b text ('\\' :: c :: cs) rest := by
  have hc := isSwallowed_of_endsLine hends
  obtain ⟨white, spelling, rfl, hwhite, -, hnext, hcloses⟩ := h
  have hwhite' : ∀ d ∈ c :: white, isSwallowed d = true := List.forall_mem_cons.mpr ⟨hc, hwhite⟩
  have hrest : ∀ d, (spelling ++ rest).head? = some d → isSwallowed d = false := by
    obtain ⟨d, spelling, rfl⟩ := List.exists_cons_of_ne_nil hcloses.ne_nil
    exact hnext rfl
  have hfeed : '\n' ∈ c :: white := feed_mem_of_endsLine hwhite' hrest hends
  rw [← List.append_assoc, ← List.cons_append]
  exact .of_closes (fun _ => rfl) (hcloses.cons [] (.lineEnd rfl hwhite' hfeed (hnext rfl)))

theorem plain (hc : b = true → isSwallowed c = false) (hback : c ≠ '\\')
    (htext : (isText c || c == '\n') = true) (hrow : closing? '\x22' (c :: cs) = none)
    (h : ClosesBehind false text cs rest) : ClosesBehind b (c :: text) (c :: cs) rest := by
  obtain ⟨spelling, rfl, hcloses⟩ := h.closes
  refine .of_closes hc (hcloses.cons [c] (.plain htext (fun _ => hback) fun hopens => ?_))
  exact closing?_eq_none_iff.mp hrow (hopens.trans (List.prefix_append (c :: spelling) rest))

end ClosesBehind

/-- **Only spellings are read** between threefold double quotes. -/
theorem closesBehind_of_multiBasic? : ∀ {text : List Char},
    multiBasic? b cs = some (text, rest) → ClosesBehind b text cs rest := by
  induction b, cs using multiBasic?.induct with
  | case1 => exact nofun
  | case2 b c cs hswallow ih =>
    intro text h
    rw [multiBasic?.eq_def] at h
    simp only [hswallow, if_true] at h
    obtain ⟨rfl, hc⟩ := Bool.and_eq_true _ _ ▸ hswallow
    exact (ih h).swallow hc
  | case3 b a₁ a₂ a₃ a₄ cs hswallow ih =>
    intro text h
    rw [Quoted.multiBasic?, if_neg hswallow, if_pos rfl] at h
    obtain ⟨x, text', hx, hread, rfl⟩ := prepend_eq_some.mp h
    exact (ih hread).escape (.four (scalar?_eq_some_iff.mp hx))
  | case4 b a₁ a₂ a₃ a₄ a₅ a₆ a₇ a₈ cs hswallow ih =>
    intro text h
    rw [Quoted.multiBasic?, if_neg hswallow, if_pos rfl] at h
    obtain ⟨x, text', hx, hread, rfl⟩ := prepend_eq_some.mp h
    exact (ih hread).escape (.eight (scalar?_eq_some_iff.mp hx))
  | case5 b c cs hu hU hends hswallow ih =>
    intro text h
    obtain ⟨hcu, hcU, -⟩ := ne_of_isSwallowed (isSwallowed_of_endsLine hends)
    rw [multiBasic?_back hcu hcU, if_pos hends] at h
    exact (ih h).lineEnd hends
  | case6 b c cs hu hU hends hswallow ih =>
    intro text h
    rw [multiBasic?.eq_4 _ _ _ _ hu hU, if_neg hswallow, if_pos rfl, if_neg hends] at h
    obtain ⟨x, text', hx, hread, rfl⟩ := prepend_eq_some.mp h
    exact (ih hread).escape (.letter (escaped?_eq_some_iff.mp hx))
  | case7 b hswallow =>
    intro text h
    rw [multiBasic?.eq_5, if_neg hswallow, if_pos rfl] at h
    cases h
  | case8 b c cs hswallow hne read hread =>
    intro text h
    rw [multiBasic?_plain hswallow hne, hread] at h
    obtain rfl := Option.some.inj h
    obtain ⟨k, hk, rfl, heq, hrest⟩ := exists_row_of_closing? hread
    rw [heq]
    exact .of_closes (fun _ => rfl) (.row hk hrest)
  | case9 b c cs hswallow hne hnone ih =>
    intro text h
    rw [multiBasic?_plain hswallow hne, hnone] at h
    obtain ⟨x, text', hx, hread, rfl⟩ := prepend_eq_some.mp h
    obtain rfl := Option.some.inj hx
    split_ifs at hread with htext
    exact (ih hread).plain (fun hb => by simpa [hb] using hswallow) hne htext hnone

/-- **What closes is read** between threefold double quotes. -/
theorem Closes.multiBasic? (h : Closes '\x22' text spelling rest) :
    multiBasic? false (spelling ++ rest) = some (text, rest) := by
  obtain ⟨k, hk, front, rfl, hspells, hrest⟩ := h
  have hrow : Quoted.multiBasic? false (List.replicate (k + 3) '\x22' ++ rest) =
      some (List.replicate k '\x22', rest) := by
    rw [List.replicate_succ, List.cons_append, multiBasic?_plain (by simp) (by decide),
      ← List.cons_append, ← List.replicate_succ, closing?_row hk hrest]
  rw [(hspells.append (by simp) rest).multiBasic?, hrow]
  rfl

end MultiBasic

section MultiLiteral
variable {cs rest text spelling stop : List Char}

theorem SpellsLines.multiLiteral? (h : SpellsLines '\'' stop text spelling) :
    multiLiteral? spelling =
      (Quoted.multiLiteral? stop).map fun read => (text ++ read.1, read.2) := by
  induction h with
  | nil => exact Option.map_id'.symm
  | plain htext _ hrow _ ih =>
    rw [Quoted.multiLiteral?, closing?_eq_none_iff.mpr hrow]
    simp only [htext, if_true, ih, prepend_some, Option.map_map]
    rfl
  | escape hquote | lineEnd hquote => exact absurd hquote (by decide)

theorem Closes.multiLiteral? (h : Closes '\'' text spelling rest) :
    multiLiteral? (spelling ++ rest) = some (text, rest) := by
  obtain ⟨k, hk, front, rfl, hspells, hrest⟩ := h
  have hrow : Quoted.multiLiteral? (List.replicate (k + 3) '\'' ++ rest) =
      some (List.replicate k '\'', rest) := by
    rw [List.replicate_succ, List.cons_append, Quoted.multiLiteral?, ← List.cons_append,
      ← List.replicate_succ, closing?_row hk hrest]
  rw [(hspells.append (by simp) rest).multiLiteral?, hrow]
  rfl

theorem exists_closes_of_multiLiteral? : ∀ {text : List Char},
    multiLiteral? cs = some (text, rest) → ∃ spelling, cs = spelling ++ rest ∧
      Closes '\'' text spelling rest := by
  induction cs using multiLiteral?.induct with
  | case1 => exact nofun
  | case2 c cs read hread =>
    intro text h
    rw [Quoted.multiLiteral?, hread] at h
    obtain rfl := Option.some.inj h
    obtain ⟨k, hk, rfl, heq, hrest⟩ := exists_row_of_closing? hread
    exact ⟨_, heq, .row hk hrest⟩
  | case3 c cs hnone ih =>
    intro text h
    rw [Quoted.multiLiteral?, hnone] at h
    obtain ⟨x, text', hx, hread, rfl⟩ := prepend_eq_some.mp h
    obtain rfl := Option.some.inj hx
    split_ifs at hread with htext
    obtain ⟨spelling, rfl, hcloses⟩ := ih hread
    refine ⟨c :: spelling, rfl,
      hcloses.cons [c] (.plain htext (fun hquote => absurd hquote (by decide)) fun hrow => ?_)⟩
    exact closing?_eq_none_iff.mp hnone (hrow.trans (List.prefix_append (c :: spelling) rest))

end MultiLiteral

/-! ### All spellings -/

/-- A text and a spelling of it, the quotes included. Over several lines, a line end right after the
opening quotes is not in the text, and one or two quotes in front of the closing ones are. -/
inductive Spelling : List Char → List Char → Prop
  | basic {text spelling : List Char} (h : Spells text spelling) :
      Spelling text ('\x22' :: (spelling ++ ['\x22']))
  | literal {text : List Char} (h : ∀ c ∈ text, (isText c && c != '\'') = true) :
      Spelling text ('\'' :: (text ++ ['\'']))
  | lines {quote : Char} {k : Nat} {text spelling : List Char}
      (hquote : quote = '\x22' ∨ quote = '\'') (hk : k ≤ 2)
      (h : SpellsLines quote (List.replicate (k + 3) quote) text (dropLineEnd spelling)) :
      Spelling (text ++ List.replicate k quote) (List.replicate 3 quote ++ spelling)

/-- A text that starts like a spelling, but has an escape for no character. -/
inductive Misspelling : List Char → Prop
  | basic {text spelling esc : List Char} (h : Spells text spelling) (hesc : NoEscape esc)
      (rest : List Char) : Misspelling ('\x22' :: (spelling ++ (esc ++ rest)))
  | lines {text spelling esc rest : List Char} (hesc : NoEscape esc)
      (h : SpellsLines '\x22' (esc ++ rest) text (dropLineEnd spelling)) :
      Misspelling (List.replicate 3 '\x22' ++ spelling)

/-- Whether a text does not start with a quote. -/
def Unquoted (cs : List Char) : Prop := ∀ c, cs.head? = some c → c ≠ '\x22' ∧ c ≠ '\''

section Spellings
variable {quote : Char} {cs text spelling lit rest : List Char}

theorem Unquoted.head?_ne (h : Unquoted rest) (hquote : quote = '\x22' ∨ quote = '\'') :
    rest.head? ≠ some quote := by
  rintro hhead
  obtain ⟨hbasic, hliteral⟩ := h quote hhead
  exact hquote.elim hbasic hliteral

theorem read?_literal (h : ∀ c ∈ text, (isText c && c != '\'') = true)
    (hrest : text ≠ [] ∨ rest.head? ≠ some '\'') :
    read? ('\'' :: (text ++ '\'' :: rest)) = some (text, rest) := by
  have hnot : ∀ cs, text ++ '\'' :: rest ≠ '\'' :: '\'' :: cs := by
    intro cs heq
    cases text with
    | nil =>
      refine hrest.elim (fun hne => hne rfl) fun hne => hne ?_
      rw [(List.cons.inj heq).2]
      rfl
    | cons c text =>
      have hc := h c List.mem_cons_self
      rw [(List.cons.inj heq).1] at hc
      exact absurd hc (by decide)
  rw [read?.eq_4 _ hnot]
  exact literal?_eq_some_iff.mpr ⟨rfl, h⟩

theorem dropLineEnd_append (hne : dropLineEnd spelling ≠ []) (rest : List Char) :
    dropLineEnd (spelling ++ rest) = dropLineEnd spelling ++ rest := by
  cases spelling with
  | nil => exact absurd rfl hne
  | cons c spelling =>
    rw [dropLineEnd.eq_def, dropLineEnd.eq_def (c :: spelling)]
    split <;> split <;> simp_all

theorem exists_dropLineEnd {after : List Char} (h : dropLineEnd cs = after ++ rest)
    (hne : after ≠ []) : ∃ spelling, cs = spelling ++ rest ∧ dropLineEnd spelling = after := by
  rw [dropLineEnd.eq_def] at h
  split at h
  · next cs =>
    exact ⟨'\n' :: after, by rw [h]; rfl, rfl⟩
  · next hfeed =>
    obtain ⟨c, after, rfl⟩ := List.exists_cons_of_ne_nil hne
    have hc : ∀ after', c :: after = '\n' :: after' → False := fun after' heq =>
      hfeed (after' ++ rest) (h.trans (congrArg (· ++ rest) heq))
    exact ⟨c :: after, h, dropLineEnd.eq_2 _ hc⟩

theorem read?_lines (hquote : quote = '\x22' ∨ quote = '\'')
    (h : Closes quote text (dropLineEnd spelling) rest) :
    read? (List.replicate 3 quote ++ spelling ++ rest) = some (text, rest) := by
  have hdrop := dropLineEnd_append h.ne_nil rest
  rcases hquote with rfl | rfl
  · exact (congrArg _ hdrop).trans h.multiBasic?
  · exact (congrArg _ hdrop).trans h.multiLiteral?

/-- **A spelling is read as its text** unless a further quote follows it. -/
theorem read?_spelling (h : Spelling text lit) (hrest : Unquoted rest) :
    read? (lit ++ rest) = some (text, rest) := by
  cases h with
  | basic h =>
    rw [List.cons_append, List.append_assoc]
    exact read?_basic h (.inr (hrest.head?_ne (.inl rfl)))
  | literal h =>
    rw [List.cons_append, List.append_assoc]
    exact read?_literal h (.inr (hrest.head?_ne (.inr rfl)))
  | lines hquote hk h => exact read?_lines hquote ⟨_, hk, _, rfl, h, .inl (hrest.head?_ne hquote)⟩

/-- Of what comes after a text, the first character is all that is looked at. -/
theorem head?_ne_of_alike {rest' : List Char} (hquote : quote = '\x22' ∨ quote = '\'')
    (hne : rest.head? ≠ some quote) (h : rest'.head? = rest.head? ∨ Unquoted rest') :
    rest'.head? ≠ some quote := by
  rcases h with hsame | hrest'
  · rwa [hsame]
  · exact hrest'.head?_ne hquote

/-- What is read over several lines is one of the spellings. -/
theorem exists_spelling_of_closes {after : List Char} (hquote : quote = '\x22' ∨ quote = '\'')
    (hdrop : dropLineEnd cs = after ++ rest) (hcloses : Closes quote text after rest) :
    ∃ lit, List.replicate 3 quote ++ cs = lit ++ rest ∧ Spelling text lit ∧
      ∀ rest', rest'.head? = rest.head? ∨ Unquoted rest' →
        read? (lit ++ rest') = some (text, rest') := by
  obtain ⟨spelling, rfl, rfl⟩ := exists_dropLineEnd hdrop hcloses.ne_nil
  obtain ⟨k, hk, front, rfl, hspells, hrest⟩ := hcloses
  refine ⟨_, (List.append_assoc _ _ _).symm, .lines hquote hk hspells, fun rest' hrest' => ?_⟩
  exact read?_lines hquote
    ⟨k, hk, front, rfl, hspells, hrest.imp_left fun hne => head?_ne_of_alike hquote hne hrest'⟩

/-- **Only spellings are read**, and the first character after one is all that is looked at. -/
theorem exists_spelling (h : read? cs = some (text, rest)) : ∃ lit, cs = lit ++ rest ∧
    Spelling text lit ∧ ∀ rest', rest'.head? = rest.head? ∨ Unquoted rest' →
      read? (lit ++ rest') = some (text, rest') := by
  -- An empty text on one line has no third quote behind it.
  have hnil : ∀ {quote : Char}, (∀ cs', quote :: rest = quote :: quote :: cs' → False) →
      rest.head? ≠ some quote := by
    intro quote hnot hhead
    obtain ⟨cs', rfl⟩ := List.head?_eq_some_iff.mp hhead
    exact hnot cs' rfl
  rw [read?.eq_def] at h
  split at h
  · obtain ⟨after, hcs', hcloses⟩ := (closesBehind_of_multiBasic? h).closes
    exact exists_spelling_of_closes (.inl rfl) hcs' hcloses
  · next cs' hnot =>
    obtain ⟨spelling, rfl, hspells⟩ := exists_spells_of_basic? h
    refine ⟨_, by simp, .basic hspells, fun rest' hrest' => ?_⟩
    rw [List.cons_append, List.append_assoc]
    refine read?_basic hspells ?_
    cases spelling with
    | nil => exact .inr (head?_ne_of_alike (.inl rfl) (hnil hnot) hrest')
    | cons => exact .inl (List.cons_ne_nil _ _)
  · obtain ⟨after, hcs', hcloses⟩ := exists_closes_of_multiLiteral? h
    exact exists_spelling_of_closes (.inr rfl) hcs' hcloses
  · next cs' hnot =>
    obtain ⟨rfl, htext⟩ := literal?_eq_some_iff.mp h
    refine ⟨_, by simp, .literal htext, fun rest' hrest' => ?_⟩
    rw [List.cons_append, List.append_assoc]
    refine read?_literal htext ?_
    cases text with
    | nil => exact .inr (head?_ne_of_alike (.inr rfl) (hnil hnot) hrest')
    | cons => exact .inl (List.cons_ne_nil _ _)
  · cases h

/-- **A fault in a text** is a fault whatever follows. -/
theorem read?_misspelling (h : Misspelling cs) : read? cs = none := by
  cases h with
  | @basic text spelling esc h hesc rest =>
    have hnot : ∀ cs, spelling ++ (esc ++ rest) = '\x22' :: '\x22' :: cs → False := by
      intro cs heq
      cases spelling with
      | nil => cases hesc <;> exact absurd (List.cons.inj heq).1 (by decide)
      | cons c spelling => exact h.head?_ne (congrArg some (List.cons.inj heq).1)
    rw [read?.eq_2 _ hnot]
    exact h.basic?_eq_none (hesc.basic? rest)
  | lines hesc h =>
    refine h.multiBasic?.trans ?_
    rw [hesc.multiBasic?]
    rfl

end Spellings

end WmConfig.Toml.Quoted
