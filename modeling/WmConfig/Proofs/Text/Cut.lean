import Mathlib.Algebra.Order.BigOperators.Group.List
import Mathlib.Algebra.Order.Ring.Nat
import Mathlib.Data.List.TakeWhile
import Mathlib.Tactic.SplitIfs
import WmConfig.Text.Blank
import WmConfig.Text.Split

/-! # Texts cut apart

A cut at the first separator is the one with no separator in front of it (`cutFirst?_eq_some_iff`), a cut
at the last one that with none behind it (`cutLast?_eq_some_iff`). A text cut at all separators has
pieces without any (`notMem_of_mem_splitOn`), and every other character of the text is counted in one
of them (`count_eq_sum_splitOn`); pieces put behind it are its last ones (`splitOn_append_flatMap`).
Trimming takes off blanks only (`count_trim`), all that stand at an end (`trim_surround`), and nothing
where none does (`IsTrimmed.trim_eq`). -/

namespace WmConfig

variable {sep c : Char} {cs before after : List Char}

/-! ### One cut -/

theorem cutFirst?_eq_none_iff : cutFirst? sep cs = none ↔ sep ∉ cs := by
  induction cs with
  | nil => simp [cutFirst?]
  | cons d cs ih =>
    rw [cutFirst?, List.mem_cons, not_or, ← ih]
    split_ifs with hd
    · simp [hd]
    · simp [Ne.symm hd]

/-- **The first separator** has no separator in front of it. -/
theorem cutFirst?_eq_some_iff :
    cutFirst? sep cs = some (before, after) ↔ cs = before ++ sep :: after ∧ sep ∉ before := by
  constructor
  · intro h
    refine ⟨(append_of_cutFirst? h).symm, ?_⟩
    induction cs generalizing before with
    | nil => cases h
    | cons d cs ih =>
      rw [cutFirst?] at h
      split_ifs at h with hd
      · obtain ⟨rfl, -⟩ := Prod.mk.inj (Option.some.inj h)
        exact List.not_mem_nil
      · obtain ⟨⟨front, back⟩, hcut, hparts⟩ := Option.map_eq_some_iff.mp h
        obtain ⟨rfl, rfl⟩ := Prod.mk.inj hparts
        rw [List.mem_cons, not_or]
        exact ⟨Ne.symm hd, ih hcut⟩
  · rintro ⟨rfl, hbefore⟩
    induction before with
    | nil => rw [List.nil_append, cutFirst?, if_pos rfl]
    | cons b before ih =>
      rw [List.mem_cons, not_or] at hbefore
      rw [List.cons_append, cutFirst?, if_neg (Ne.symm hbefore.1), ih hbefore.2]
      rfl

theorem cutLast?_eq_none_iff : cutLast? sep cs = none ↔ sep ∉ cs := by
  induction cs with
  | nil => simp [cutLast?]
  | cons d cs ih =>
    rw [cutLast?, List.mem_cons, not_or, ← ih]
    cases cutLast? sep cs with
    | none => simpa using ne_comm
    | some p => simp

theorem notMem_of_cutLast? (h : cutLast? sep cs = some (before, after)) : sep ∉ after := by
  induction cs generalizing before with
  | nil => cases h
  | cons d cs ih =>
    rw [cutLast?] at h
    cases hcut : cutLast? sep cs with
    | none =>
      rw [hcut] at h
      simp only at h
      split_ifs at h
      obtain ⟨rfl, rfl⟩ := Prod.mk.inj (Option.some.inj h)
      exact cutLast?_eq_none_iff.mp hcut
    | some p =>
      rw [hcut] at h
      obtain ⟨rfl, rfl⟩ := Prod.mk.inj (Option.some.inj h)
      exact ih hcut

/-- **The last separator** has no separator behind it. -/
theorem cutLast?_eq_some_iff :
    cutLast? sep cs = some (before, after) ↔ cs = before ++ sep :: after ∧ sep ∉ after := by
  constructor
  · exact fun h => ⟨(append_of_cutLast? h).symm, notMem_of_cutLast? h⟩
  · rintro ⟨rfl, hafter⟩
    induction before with
    | nil => rw [List.nil_append, cutLast?, cutLast?_eq_none_iff.mpr hafter, if_pos rfl]
    | cons b before ih => rw [List.cons_append, cutLast?, ih]

/-- There is one last separator only. -/
theorem eq_of_last_cut {before' after' : List Char}
    (h : before ++ sep :: after = before' ++ sep :: after') (hafter : sep ∉ after)
    (hafter' : sep ∉ after') : before = before' ∧ after = after' := by
  have hcut : cutLast? sep (before ++ sep :: after) = some (before', after') :=
    cutLast?_eq_some_iff.mpr ⟨h, hafter'⟩
  rw [cutLast?_eq_some_iff.mpr ⟨rfl, hafter⟩] at hcut
  exact Prod.mk.inj (Option.some.inj hcut)

/-! ### All cuts -/

/-- A piece has no separator in it. -/
theorem notMem_of_mem_splitOn {piece : List Char} (h : piece ∈ cs.splitOn sep) : sep ∉ piece := by
  induction cs generalizing piece with
  | nil =>
    rw [List.splitOn_nil, List.mem_singleton] at h
    rw [h]
    exact List.not_mem_nil
  | cons d cs ih =>
    obtain ⟨first, others, hpieces⟩ := List.exists_cons_of_ne_nil (List.splitOn_ne_nil sep cs)
    rw [hpieces] at ih
    rw [List.splitOn_cons_eq_if_modifyHead, hpieces] at h
    split_ifs at h with hd
    · rcases List.mem_cons.mp h with rfl | h
      · exact List.not_mem_nil
      · exact ih h
    · rcases List.mem_cons.mp h with rfl | h
      · rw [List.mem_cons, not_or]
        exact ⟨fun hsep => hd (beq_iff_eq.mpr hsep.symm), ih List.mem_cons_self⟩
      · exact ih (List.mem_cons_of_mem _ h)

/-- What is joined has the characters of the pieces, separators apart. -/
theorem count_intercalate (hc : c ≠ sep) (pieces : List (List Char)) :
    ([sep].intercalate pieces).count c = (pieces.map (·.count c)).sum := by
  induction pieces with
  | nil => rfl
  | cons piece pieces ih =>
    cases pieces with
    | nil => simp
    | cons next pieces =>
      rw [List.intercalate_cons_cons, List.count_append, List.count_append, ih,
        List.count_singleton, if_neg (by simpa using hc.symm), Nat.add_zero]
      rfl

theorem count_eq_sum_splitOn (hc : c ≠ sep) (cs : List Char) :
    cs.count c = ((cs.splitOn sep).map (·.count c)).sum := by
  rw [← count_intercalate hc, List.intercalate_splitOn]

/-- Pieces behind separators at the end of a text are its last ones. -/
theorem splitOn_append_flatMap {pieces : List (List Char)} (h : ∀ piece ∈ pieces, sep ∉ piece)
    (cs : List Char) : (cs ++ pieces.flatMap (sep :: ·)).splitOn sep = cs.splitOn sep ++ pieces := by
  induction pieces generalizing cs with
  | nil => rw [List.flatMap_nil, List.append_nil, List.append_nil]
  | cons piece pieces ih =>
    obtain ⟨hpiece, hpieces⟩ := List.forall_mem_cons.mp h
    have hcut := List.splitOnP_append_cons (p := (· == sep)) cs piece (beq_self_eq_true sep)
    simp only [← List.splitOn_eq_splitOnP, List.splitOn_eq_singleton hpiece] at hcut
    rw [List.flatMap_cons, ← List.append_assoc, ih hpieces, hcut, List.append_assoc]
    rfl

theorem mem_of_mem_splitOn {piece : List Char} (h : piece ∈ cs.splitOn sep) (hc : c ∈ piece) :
    c ∈ cs := by
  have hne : c ≠ sep := fun hsep => notMem_of_mem_splitOn h (hsep ▸ hc)
  rw [← List.count_pos_iff] at hc ⊢
  rw [count_eq_sum_splitOn hne]
  exact Nat.lt_of_lt_of_le hc (List.le_sum_of_mem (List.mem_map_of_mem h))

/-! ### Blanks -/

/-- No blank stands at an end. -/
def IsTrimmed (cs : List Char) : Prop :=
  cs.head?.any isBlank = false ∧ cs.getLast?.any isBlank = false

instance (cs : List Char) : Decidable (IsTrimmed cs) := inferInstanceAs (Decidable (_ ∧ _))

theorem dropWhile_isBlank_eq (h : cs.head?.any isBlank = false) : cs.dropWhile isBlank = cs := by
  cases cs with
  | nil => rfl
  | cons d cs => exact List.dropWhile_cons_of_neg (by simpa using h)

theorem IsTrimmed.trim_eq (h : IsTrimmed cs) : trim cs = cs := by
  rw [trim, dropWhile_isBlank_eq h.1, dropWhile_isBlank_eq (by rw [List.head?_reverse]; exact h.2),
    List.reverse_reverse]

theorem count_dropWhile_isBlank (hc : isBlank c = false) (cs : List Char) :
    (cs.dropWhile isBlank).count c = cs.count c := by
  have hnone : (cs.takeWhile isBlank).count c = 0 := by
    refine List.count_eq_zero_of_not_mem fun hmem => ?_
    exact absurd (hc.symm.trans (List.mem_takeWhile_imp hmem)) Bool.false_ne_true
  conv_rhs => rw [← List.takeWhile_append_dropWhile (p := isBlank) (l := cs), List.count_append, hnone,
    Nat.zero_add]

/-- Trimming takes off blanks only. -/
theorem count_trim (hc : isBlank c = false) (cs : List Char) : (trim cs).count c = cs.count c := by
  rw [trim, List.count_reverse, count_dropWhile_isBlank hc, List.count_reverse,
    count_dropWhile_isBlank hc]

/-- All characters are blanks. -/
def AreBlanks (cs : List Char) : Prop := ∀ c ∈ cs, isBlank c = true

instance (cs : List Char) : Decidable (AreBlanks cs) :=
  List.decidableBAll (fun c => isBlank c = true) cs

theorem areBlanks_nil : AreBlanks [] := fun _ hc => absurd hc List.not_mem_nil

theorem AreBlanks.notMem (h : AreBlanks cs) (hc : isBlank c = false) : c ∉ cs :=
  fun hmem => absurd (hc.symm.trans (h c hmem)) Bool.false_ne_true

/-- Trimming takes off all blanks at the ends. -/
theorem trim_surround (hbefore : AreBlanks before) (hafter : AreBlanks after) (cs : List Char) :
    trim (before ++ cs ++ after) = trim cs := by
  have hback : ∀ front : List Char,
      (front ++ after).reverse.dropWhile isBlank = front.reverse.dropWhile isBlank := fun front => by
    rw [List.reverse_append]
    exact List.dropWhile_append_of_pos fun c hc => hafter c (List.mem_reverse.mp hc)
  rw [trim, trim, List.append_assoc, List.dropWhile_append_of_pos hbefore, List.dropWhile_append]
  split_ifs with hempty
  · -- Nothing but blanks: what is left of them is nothing.
    rw [List.isEmpty_iff.mp hempty, List.dropWhile_eq_nil_iff.mpr hafter]
  · rw [hback]

theorem AreBlanks.trim_eq (h : AreBlanks cs) : trim cs = [] := by
  rw [trim, List.dropWhile_eq_nil_iff.mpr h]
  rfl

theorem mem_of_mem_trim (h : c ∈ trim cs) : c ∈ cs := by
  rw [trim, List.mem_reverse] at h
  exact (List.dropWhile_sublist isBlank).mem
    (List.mem_reverse.mp ((List.dropWhile_sublist isBlank).mem h))

end WmConfig
