import Mathlib.Algebra.Order.Ring.Nat
import Mathlib.Data.List.Induction
import Mathlib.Data.Nat.Find
import Mathlib.Data.Prod.Lex
import Mathlib.Order.Bounds.Basic
import WmConfig.Keyboard

/-! # Looking up keyboard and modifier maps

A keyboard map is searched column by column; of the keys that produce a keysym and have a keycode,
the first one in this order is found (`keycodeOf?_eq_some_iff`, `keycodeOf?_eq_none_iff`), which is
the one at the least place (`keycode_of_least_place`). Of the modifiers that a keycode acts as, the
last one is taken (`modifierOf_eq_of_last`, `modifierOf_eq_zero`, `modifier_of_greatest_slot`).
Together they give the modifier of a keysym (`hasBit_modifierOf`). -/

namespace WmConfig.Keyboard

/-! ### Rows -/

theorem getElem?_rows_eq_some_iff {α : Type} {width : ℕ} {cells row : List α} {i : ℕ} :
    (rows width cells)[i]? = some row ↔ 0 < width ∧ (i + 1) * width ≤ cells.length ∧
      (cells.drop (i * width)).take width = row := by
  unfold rows
  by_cases hwidth : width = 0
  · simp [hwidth]
  have hpos := Nat.pos_of_ne_zero hwidth
  have hlt : i < cells.length / width ↔ (i + 1) * width ≤ cells.length :=
    Nat.le_div_iff_mul_le hpos
  rw [if_neg hwidth, List.getElem?_map, Option.map_eq_some_iff, ← hlt]
  constructor
  · rintro ⟨j, hj, hrow⟩
    obtain ⟨hi, rfl⟩ := List.getElem?_eq_some_iff.mp hj
    rw [List.getElem_range] at hrow
    rw [List.length_range] at hi
    exact ⟨hpos, hi, hrow⟩
  · rintro ⟨-, hi, hrow⟩
    exact ⟨i, List.getElem?_range hi, hrow⟩

/-- The cell at a place of a row. -/
theorem getElem?_row {α : Type} {width : ℕ} {cells row : List α} {i j : ℕ}
    (h : (rows width cells)[i]? = some row) (hj : j < width) :
    row[j]? = cells[i * width + j]? := by
  obtain ⟨-, -, rfl⟩ := getElem?_rows_eq_some_iff.mp h
  rw [List.getElem?_take, if_pos hj, List.getElem?_drop]

/-- What follows complete rows does not change them. -/
theorem getElem?_rows_append {α : Type} {width : ℕ} {cells : List α} {i : ℕ} (rest : List α)
    (h : (i + 1) * width ≤ cells.length) :
    (rows width (cells ++ rest))[i]? = (rows width cells)[i]? := by
  have hstart : (i + 1) * width = i * width + width := Nat.succ_mul i width
  have hrow : ((cells ++ rest).drop (i * width)).take width =
      (cells.drop (i * width)).take width := by
    rw [List.drop_append_of_le_length (by omega),
      List.take_append_of_le_length (by rw [List.length_drop]; omega)]
  refine Option.ext fun row => ?_
  rw [getElem?_rows_eq_some_iff, getElem?_rows_eq_some_iff, hrow, List.length_append]
  simp only [h, h.trans (Nat.le_add_right _ _)]

/-- An incomplete row at the end is left out. -/
theorem rows_append_of_lt {α : Type} {width : ℕ} {cells rest : List α} (hcells : width ∣ cells.length)
    (hrest : rest.length < width) : rows width (cells ++ rest) = rows width cells := by
  refine List.ext_getElem? fun i => ?_
  by_cases hi : (i + 1) * width ≤ cells.length
  · exact getElem?_rows_append rest hi
  · obtain ⟨count, hcount⟩ := hcells
    have hlt : count < i + 1 := by
      by_contra hle
      exact hi (by rw [hcount, Nat.mul_comm]; exact Nat.mul_le_mul_left width (not_lt.mp hle))
    -- The rest would have to fill a whole row.
    have hlate : cells.length + rest.length < (i + 1) * width :=
      calc cells.length + rest.length < width * count + width := by omega
        _ = (count + 1) * width := by rw [Nat.succ_mul, Nat.mul_comm]
        _ ≤ (i + 1) * width := Nat.mul_le_mul_right width hlt
    have hnone : ∀ cells' : List α, cells'.length < (i + 1) * width →
        (rows width cells')[i]? = none := by
      intro cells' hlength
      rw [Option.eq_none_iff_forall_ne_some]
      exact fun row hrow =>
        absurd (getElem?_rows_eq_some_iff.mp hrow).2.1 (Nat.not_le.mpr hlength)
    rw [hnone _ (by rwa [List.length_append]), hnone _ (not_le.mp hi)]

/-! ### The keycode of a keysym -/

/-- Whether the column of a complete row holds the keysym. -/
def Produces (keysyms : List UInt32) (width : ℕ) (target : UInt32) (column row : ℕ) : Prop :=
  column < width ∧ (row + 1) * width ≤ keysyms.length ∧
    keysyms[row * width + column]? = some target

/-- The keycode is that of a row that produces the keysym, and no row with a keycode does so in an
earlier column, or in the same column before it. -/
def IsFirst (keysyms : List UInt32) (width : ℕ) (least : UInt8) (target : UInt32) (k : UInt8) :
    Prop :=
  ∃ column row, Produces keysyms width target column row ∧ k.toNat = least.toNat + row ∧
    ∀ column' row', Produces keysyms width target column' row' → least.toNat + row' ≤ 255 →
      column < column' ∨ column = column' ∧ row ≤ row'

section Keycodes
variable {keysyms : List UInt32} {width : ℕ} {least k : UInt8} {target : UInt32} {column row : ℕ}

theorem produces_iff :
    Produces keysyms width target column row ↔ column < width ∧
      ∃ cells, (rows width keysyms)[row]? = some cells ∧ cells[column]? = some target := by
  unfold Produces
  refine and_congr_right fun hcolumn => ?_
  constructor
  · rintro ⟨hrow, hcell⟩
    have hcells := getElem?_rows_eq_some_iff.mpr ⟨Nat.zero_lt_of_lt hcolumn, hrow, rfl⟩
    exact ⟨_, hcells, (getElem?_row hcells hcolumn).trans hcell⟩
  · rintro ⟨cells, hcells, hcell⟩
    exact ⟨(getElem?_rows_eq_some_iff.mp hcells).2.1,
      (getElem?_row hcells hcolumn).symm.trans hcell⟩

theorem keycodeOfRow?_eq_some_iff :
    keycodeOfRow? least row = some k ↔ k.toNat = least.toNat + row := by
  have hk := k.toNat_lt
  unfold keycodeOfRow?
  by_cases hrow : least.toNat + row ≤ 255
  · have hsum : (least + UInt8.ofNat row).toNat = least.toNat + row := by
      rw [UInt8.toNat_add, UInt8.toNat_ofNat_of_lt' (show row < 256 by omega)]
      omega
    rw [if_pos hrow, Option.some.injEq, ← UInt8.toNat_inj, hsum, eq_comm]
  · rw [if_neg hrow]
    simp only [reduceCtorEq, false_iff]
    omega

/-- The keycode found in a column. -/
def keycodeOfColumn? (keysyms : List UInt32) (width : ℕ) (least : UInt8) (target : UInt32)
    (column : ℕ) : Option UInt8 :=
  ((rows width keysyms).findIdx? fun cells => cells[column]? == some target).bind
    (keycodeOfRow? least)

theorem keycodeOf?_eq_findSome? :
    keycodeOf? keysyms width least target =
      (List.range width).findSome? (keycodeOfColumn? keysyms width least target) := rfl

theorem findIdx?_column_eq_some_iff (hcolumn : column < width) :
    ((rows width keysyms).findIdx? fun cells => cells[column]? == some target) = some row ↔
      Produces keysyms width target column row ∧
        ∀ row' < row, ¬ Produces keysyms width target column row' := by
  simp only [produces_iff, hcolumn, true_and]
  rw [List.findIdx?_eq_some_iff_getElem]
  constructor
  · rintro ⟨hlt, hrow, hbefore⟩
    refine ⟨⟨_, List.getElem?_eq_getElem hlt, by simpa using hrow⟩, ?_⟩
    rintro row' hrow' ⟨cells, hcells, hcell⟩
    obtain ⟨_, rfl⟩ := List.getElem?_eq_some_iff.mp hcells
    exact hbefore row' hrow' (by simpa using hcell)
  · rintro ⟨⟨cells, hcells, hcell⟩, hbefore⟩
    obtain ⟨hlt, rfl⟩ := List.getElem?_eq_some_iff.mp hcells
    exact ⟨hlt, by simpa using hcell, fun row' hrow' hcell' => hbefore row' hrow'
      ⟨_, List.getElem?_eq_getElem (hrow'.trans hlt), by simpa using hcell'⟩⟩

theorem keycodeOfColumn?_eq_some_iff (hcolumn : column < width) :
    keycodeOfColumn? keysyms width least target column = some k ↔
      ∃ row, Produces keysyms width target column row ∧ k.toNat = least.toNat + row ∧
        ∀ row' < row, ¬ Produces keysyms width target column row' := by
  unfold keycodeOfColumn?
  rw [Option.bind_eq_some_iff]
  simp only [findIdx?_column_eq_some_iff hcolumn, keycodeOfRow?_eq_some_iff]
  constructor
  · rintro ⟨row, ⟨hrow, hbefore⟩, hk⟩
    exact ⟨row, hrow, hk, hbefore⟩
  · rintro ⟨row, hrow, hk, hbefore⟩
    exact ⟨row, ⟨hrow, hbefore⟩, hk⟩

/-- A column gives no keycode iff none of its rows that produce the keysym has one: if the first one
has none, then neither have the rows after it. -/
theorem keycodeOfColumn?_eq_none_iff (hcolumn : column < width) :
    keycodeOfColumn? keysyms width least target column = none ↔
      ∀ row, Produces keysyms width target column row → 255 < least.toNat + row := by
  rw [Option.eq_none_iff_forall_ne_some]
  constructor
  · intro hnone row hrow
    by_contra hle
    classical
    have hex : ∃ row, Produces keysyms width target column row := ⟨row, hrow⟩
    -- Keycodes grow with the rows, so the first row has one if any has.
    have hfirst : Nat.find hex ≤ row := Nat.find_min' hex hrow
    have hk : (UInt8.ofNat (least.toNat + Nat.find hex)).toNat = least.toNat + Nat.find hex :=
      UInt8.toNat_ofNat_of_lt' (show least.toNat + Nat.find hex < 256 by omega)
    exact hnone _ ((keycodeOfColumn?_eq_some_iff hcolumn).mpr
      ⟨_, Nat.find_spec hex, hk, fun _ => Nat.find_min hex⟩)
  · intro hlate k hk
    obtain ⟨row, hrow, hk, -⟩ := (keycodeOfColumn?_eq_some_iff hcolumn).mp hk
    have := hlate row hrow
    have := k.toNat_lt
    omega

theorem findSome?_range_eq_some_iff {β : Type} (f : ℕ → Option β) (n : ℕ) (b : β) :
    (List.range n).findSome? f = some b ↔ ∃ i < n, f i = some b ∧ ∀ j < i, f j = none := by
  induction n with
  | zero => simp
  | succ n ih =>
    rw [List.range_succ, List.findSome?_append, Option.or_eq_some_iff, ih]
    simp only [List.findSome?_eq_none_iff, List.mem_range, List.findSome?_singleton]
    constructor
    · rintro (⟨i, hi, hb⟩ | ⟨hnone, hb⟩)
      · exact ⟨i, by omega, hb⟩
      · exact ⟨n, by omega, hb, hnone⟩
    · rintro ⟨i, hi, hb, hnone⟩
      rcases Nat.lt_succ_iff_lt_or_eq.mp hi with hlt | rfl
      · exact Or.inl ⟨i, hlt, hb, hnone⟩
      · exact Or.inr ⟨hnone, hb⟩

/-- **The keycode found is the first one.** -/
theorem keycodeOf?_eq_some_iff :
    keycodeOf? keysyms width least target = some k ↔ IsFirst keysyms width least target k := by
  rw [keycodeOf?_eq_findSome?, findSome?_range_eq_some_iff]
  constructor
  · rintro ⟨column, hcolumn, hsome, hnone⟩
    obtain ⟨row, hrow, hk, hbefore⟩ := (keycodeOfColumn?_eq_some_iff hcolumn).mp hsome
    refine ⟨column, row, hrow, hk, fun column' row' hrow' hle => ?_⟩
    rcases Nat.lt_trichotomy column column' with hlt | rfl | hgt
    · exact Or.inl hlt
    · exact Or.inr ⟨rfl, not_lt.mp fun hlt => hbefore row' hlt hrow'⟩
    · -- An earlier column gave nothing, so its rows have no keycode.
      have hlate := (keycodeOfColumn?_eq_none_iff (hgt.trans hcolumn)).mp (hnone column' hgt)
      exact absurd (hlate row' hrow') (by omega)
  · rintro ⟨column, row, hrow, hk, hfirst⟩
    have hle := k.toNat_lt
    refine ⟨column, hrow.1, (keycodeOfColumn?_eq_some_iff hrow.1).mpr ⟨row, hrow, hk, ?_⟩, ?_⟩
    · intro row' hrow' hproduces
      rcases hfirst column row' hproduces (by omega) with hlt | ⟨-, hle'⟩
      · exact absurd hlt (Nat.lt_irrefl _)
      · omega
    · intro column' hcolumn'
      refine (keycodeOfColumn?_eq_none_iff (hcolumn'.trans hrow.1)).mpr fun row' hproduces => ?_
      by_contra hle'
      rcases hfirst column' row' hproduces (by omega) with hlt | ⟨heq, -⟩
      · omega
      · omega

/-- No keycode is found iff no row that produces the keysym has one. -/
theorem keycodeOf?_eq_none_iff :
    keycodeOf? keysyms width least target = none ↔
      ∀ column row, Produces keysyms width target column row → 255 < least.toNat + row := by
  rw [keycodeOf?_eq_findSome?, List.findSome?_eq_none_iff]
  constructor
  · intro hnone column row hrow
    exact (keycodeOfColumn?_eq_none_iff hrow.1).mp (hnone column (List.mem_range.mpr hrow.1)) row
      hrow
  · intro hlate column hcolumn
    exact (keycodeOfColumn?_eq_none_iff (List.mem_range.mp hcolumn)).mpr (hlate column)

/-- The places of the rows that produce the keysym and have a keycode, in the order of the columns
and, within one column, of the rows. -/
def places (keysyms : List UInt32) (width : ℕ) (least : UInt8) (target : UInt32) : Set (ℕ ×ₗ ℕ) :=
  {place | Produces keysyms width target (ofLex place).1 (ofLex place).2 ∧
    least.toNat + (ofLex place).2 ≤ 255}

theorem isFirst_iff_isLeast :
    IsFirst keysyms width least target k ↔
      ∃ place, IsLeast (places keysyms width least target) place ∧
        k.toNat = least.toNat + (ofLex place).2 := by
  have hk := k.toNat_lt
  constructor
  · rintro ⟨column, row, hrow, hkeycode, hfirst⟩
    refine ⟨toLex (column, row), ⟨⟨hrow, ?_⟩, fun place hplace => ?_⟩, hkeycode⟩
    · change least.toNat + row ≤ 255
      omega
    · exact Prod.Lex.le_iff.mpr (hfirst _ _ hplace.1 hplace.2)
  · rintro ⟨place, ⟨hplace, hleast⟩, hkeycode⟩
    refine ⟨_, _, hplace.1, hkeycode, fun column row hrow hle => ?_⟩
    exact Prod.Lex.le_iff.mp (hleast (show toLex (column, row) ∈ _ from ⟨hrow, hle⟩))

/-- **The keycode found is that of the least place**, and there is none only if no place of any
column produces the keysym with a keycode. An incomplete row at the end is not looked at. -/
theorem keycode_of_least_place (keysyms : List UInt32) (width : ℕ) (least : UInt8)
    (target : UInt32) :
    (∀ k, keycodeOf? keysyms width least target = some k ↔
      ∃ place, IsLeast (places keysyms width least target) place ∧
        k.toNat = least.toNat + (ofLex place).2) ∧
    (keycodeOf? keysyms width least target = none ↔ places keysyms width least target = ∅) ∧
    ∀ rest : List UInt32, width ∣ keysyms.length → rest.length < width →
      keycodeOf? (keysyms ++ rest) width least target =
        keycodeOf? keysyms width least target := by
  refine ⟨fun k => keycodeOf?_eq_some_iff.trans isFirst_iff_isLeast, ?_, ?_⟩
  · rw [keycodeOf?_eq_none_iff, Set.eq_empty_iff_forall_notMem]
    constructor
    · exact fun hlate place hplace => absurd hplace.2 (Nat.not_le.mpr (hlate _ _ hplace.1))
    · exact fun hempty column row hrow =>
        Nat.not_le.mp fun hle => hempty (toLex (column, row)) ⟨hrow, hle⟩
  · intro rest hkeysyms hrest
    simp only [keycodeOf?, rows_append_of_lt hkeysyms hrest]

/-- The first column holds the keysym on a key without a keycode only, so the second one decides; the
cell behind the complete rows counts for nothing. -/
theorem keycode_of_least_place_hidden :
    keycodeOf? ([7, 1, 7, 5, 7, 7, 5, 3] ++ [5]) 2 253 5 = some 254 ∧
    keycodeOf? ([7, 1, 7, 3, 7, 7, 5, 5] ++ [5]) 2 253 5 = none := by
  constructor
  · rw [(keycode_of_least_place [7, 1, 7, 5, 7, 7, 5, 3] 2 253 5).2.2 [5] (by decide) (by decide)]
    decide
  · rw [(keycode_of_least_place [7, 1, 7, 3, 7, 7, 5, 5] 2 253 5).2.2 [5] (by decide) (by decide)]
    decide

end Keycodes

/-! ### The modifier of a keycode -/

/-- Whether the keycode acts as the modifier. -/
def ActsAs (keycodes : List UInt8) (width : ℕ) (k : UInt8) (slot : ℕ) : Prop :=
  slot < modifierCount ∧ (slot + 1) * width ≤ keycodes.length ∧
    ∃ i < width, keycodes[slot * width + i]? = some k

section Modifiers
variable {keycodes : List UInt8} {width slot : ℕ} {k : UInt8}

theorem actsAs_iff :
    ActsAs keycodes width k slot ↔
      ∃ row, ((rows width keycodes).take modifierCount)[slot]? = some row ∧ k ∈ row := by
  simp only [List.getElem?_take]
  constructor
  · rintro ⟨hslot, hcomplete, i, hi, hk⟩
    have hrow := getElem?_rows_eq_some_iff.mpr ⟨Nat.zero_lt_of_lt hi, hcomplete, rfl⟩
    exact ⟨_, (if_pos hslot).trans hrow, List.mem_of_getElem? ((getElem?_row hrow hi).trans hk)⟩
  · rintro ⟨row, hrow, hk⟩
    by_cases hslot : slot < modifierCount
    · rw [if_pos hslot] at hrow
      obtain ⟨-, hcomplete, htake⟩ := getElem?_rows_eq_some_iff.mp hrow
      obtain ⟨i, hi⟩ := List.mem_iff_getElem?.mp hk
      have hlt : i < width := by
        have := (List.getElem?_eq_some_iff.mp hi).1
        rw [← htake, List.length_take] at this
        omega
      exact ⟨hslot, hcomplete, i, hlt, (getElem?_row hrow hlt).symm.trans hi⟩
    · rw [if_neg hslot] at hrow
      cases hrow

/-- The mask after the rows in turn. -/
def maskOf (k : UInt8) (rows : List (List UInt8)) : UInt16 :=
  rows.zipIdx.foldl (fun mask (row, slot) => if k ∈ row then 1 <<< UInt16.ofNat slot else mask) 0

theorem modifierOf_eq_maskOf :
    modifierOf keycodes width (some k) = maskOf k ((rows width keycodes).take modifierCount) := rfl

theorem maskOf_append_singleton (rows : List (List UInt8)) (row : List UInt8) :
    maskOf k (rows ++ [row]) =
      if k ∈ row then 1 <<< UInt16.ofNat rows.length else maskOf k rows := by
  unfold maskOf
  rw [List.zipIdx_append, List.foldl_append]
  simp

theorem maskOf_eq_zero {rows : List (List UInt8)} (h : ∀ row ∈ rows, k ∉ row) :
    maskOf k rows = 0 := by
  induction rows using List.reverseRecOn with
  | nil => rfl
  | append_singleton rows row ih =>
    rw [maskOf_append_singleton, if_neg (h row (by simp))]
    exact ih fun r hr => h r (List.mem_append_left _ hr)

/-- The last row with the keycode decides. -/
theorem maskOf_eq_of_last {rows : List (List UInt8)} {row : List UInt8}
    (hrow : rows[slot]? = some row) (hk : k ∈ row)
    (hlast : ∀ slot' row', slot < slot' → rows[slot']? = some row' → k ∉ row') :
    maskOf k rows = 1 <<< UInt16.ofNat slot := by
  induction rows using List.reverseRecOn with
  | nil => cases hrow
  | append_singleton rows last ih =>
    rw [maskOf_append_singleton]
    rcases Nat.lt_trichotomy slot rows.length with hlt | rfl | hgt
    · rw [if_neg (hlast rows.length last hlt List.getElem?_concat_length)]
      rw [List.getElem?_append_left hlt] at hrow
      refine ih hrow fun slot' row' hslot' hrow' => hlast slot' row' hslot' ?_
      rw [List.getElem?_append_left (List.getElem?_eq_some_iff.mp hrow').1]
      exact hrow'
    · rw [List.getElem?_concat_length] at hrow
      rw [if_pos (Option.some.inj hrow ▸ hk)]
    · rw [List.getElem?_eq_none (by rw [List.length_append]; exact hgt)] at hrow
      cases hrow

/-- **The modifier taken is the last one.** -/
theorem modifierOf_eq_of_last (h : ActsAs keycodes width k slot)
    (hlast : ∀ slot', slot < slot' → ¬ ActsAs keycodes width k slot') :
    modifierOf keycodes width (some k) = 1 <<< UInt16.ofNat slot := by
  obtain ⟨row, hrow, hk⟩ := actsAs_iff.mp h
  rw [modifierOf_eq_maskOf]
  exact maskOf_eq_of_last hrow hk fun slot' row' hslot' hrow' hk' =>
    hlast slot' hslot' (actsAs_iff.mpr ⟨row', hrow', hk'⟩)

/-- No modifier is taken if the keycode acts as none. -/
theorem modifierOf_eq_zero (h : ∀ slot, ¬ ActsAs keycodes width k slot) :
    modifierOf keycodes width (some k) = 0 := by
  rw [modifierOf_eq_maskOf]
  refine maskOf_eq_zero fun row hrow hk => ?_
  obtain ⟨slot, hslot⟩ := List.mem_iff_getElem?.mp hrow
  exact h slot (actsAs_iff.mpr ⟨row, hslot, hk⟩)

theorem exists_last (h : ActsAs keycodes width k slot) :
    ∃ last, ActsAs keycodes width k last ∧
      ∀ slot', last < slot' → ¬ ActsAs keycodes width k slot' := by
  classical
  have hle : ∀ slot, ActsAs keycodes width k slot → slot ≤ modifierCount := fun _ h => h.1.le
  refine ⟨Nat.findGreatest (ActsAs keycodes width k) modifierCount,
    Nat.findGreatest_spec (hle slot h) h, fun slot' hlt hacts => ?_⟩
  exact Nat.findGreatest_is_greatest hlt (hle slot' hacts) hacts

theorem toNat_one_shiftLeft {slot : ℕ} (h : slot < modifierCount) :
    ((1 : UInt16) <<< UInt16.ofNat slot).toNat = 2 ^ slot := by
  have hall : ∀ i : Fin modifierCount, ((1 : UInt16) <<< UInt16.ofNat i).toNat = 2 ^ (i : ℕ) := by
    decide
  exact hall ⟨slot, h⟩

/-- The slots of the modifiers that a keycode acts as, if there is a keycode. -/
def slots (keycodes : List UInt8) (width : ℕ) (keycode : Option UInt8) : Set ℕ :=
  {slot | ∃ k, keycode = some k ∧ ActsAs keycodes width k slot}

/-- Either the keycode acts as no modifier, or the last one is taken. -/
theorem modifierOf_cases (keycodes : List UInt8) (width : ℕ) (keycode : Option UInt8) :
    (slots keycodes width keycode = ∅ ∧ modifierOf keycodes width keycode = 0) ∨
      ∃ last, IsGreatest (slots keycodes width keycode) last ∧ last < modifierCount ∧
        (modifierOf keycodes width keycode).toNat = 2 ^ last := by
  cases keycode with
  | none => exact .inl ⟨Set.eq_empty_of_forall_notMem (by rintro _ ⟨_, ⟨⟩, _⟩), rfl⟩
  | some k =>
    by_cases hacts : ∃ slot, ActsAs keycodes width k slot
    · obtain ⟨slot, hslot⟩ := hacts
      obtain ⟨last, hlast, hafter⟩ := exists_last hslot
      refine .inr ⟨last, ⟨⟨k, rfl, hlast⟩, ?_⟩, hlast.1, ?_⟩
      · rintro slot' ⟨_, ⟨⟩, hslot'⟩
        exact not_lt.mp fun hlt => hafter slot' hlt hslot'
      · rw [modifierOf_eq_of_last hlast hafter, toNat_one_shiftLeft hlast.1]
    · refine .inl ⟨Set.eq_empty_of_forall_notMem ?_, modifierOf_eq_zero (not_exists.mp hacts)⟩
      rintro slot ⟨_, ⟨⟩, hslot⟩
      exact hacts ⟨slot, hslot⟩

theorem modifierOf_append {width : ℕ} {keycodes rest : List UInt8}
    (h : modifierCount * width ≤ keycodes.length ∨
      width ∣ keycodes.length ∧ rest.length < width) (keycode : Option UInt8) :
    modifierOf (keycodes ++ rest) width keycode = modifierOf keycodes width keycode := by
  have hrows : (rows width (keycodes ++ rest)).take modifierCount =
      (rows width keycodes).take modifierCount := by
    rcases h with hfull | ⟨hcells, hrest⟩
    · refine List.ext_getElem? fun i => ?_
      rw [List.getElem?_take, List.getElem?_take]
      split_ifs with hi
      · exact getElem?_rows_append rest ((Nat.mul_le_mul_right width hi).trans hfull)
      · rfl
    · rw [rows_append_of_lt hcells hrest]
  simp only [modifierOf, hrows]

/-- **The modifier taken is that of the greatest slot.** Without a keycode, with empty rows, or where
no slot holds the keycode there is none, so the mask is zero or one of eight bits; keycodes behind
the eighth slot or in an incomplete one do not count. -/
theorem modifier_of_greatest_slot (keycodes : List UInt8) (width : ℕ) (keycode : Option UInt8) :
    (∀ slot, (modifierOf keycodes width keycode).toNat = 2 ^ slot ↔
      IsGreatest (slots keycodes width keycode) slot) ∧
    (modifierOf keycodes width keycode = 0 ↔ slots keycodes width keycode = ∅) ∧
    (keycode = none ∨ width = 0 → modifierOf keycodes width keycode = 0) ∧
    (modifierOf keycodes width keycode = 0 ∨
      ∃ slot < modifierCount, (modifierOf keycodes width keycode).toNat = 2 ^ slot) ∧
    ∀ rest : List UInt8, (modifierCount * width ≤ keycodes.length ∨
        width ∣ keycodes.length ∧ rest.length < width) →
      modifierOf (keycodes ++ rest) width keycode = modifierOf keycodes width keycode := by
  have hempty : keycode = none ∨ width = 0 → slots keycodes width keycode = ∅ := by
    intro h
    refine Set.eq_empty_of_forall_notMem ?_
    rintro slot ⟨k, hk, -, -, i, hi, -⟩
    rcases h with rfl | rfl
    · cases hk
    · exact absurd hi (Nat.not_lt_zero i)
  have hrest : ∀ rest : List UInt8, (modifierCount * width ≤ keycodes.length ∨
      width ∣ keycodes.length ∧ rest.length < width) →
      modifierOf (keycodes ++ rest) width keycode = modifierOf keycodes width keycode :=
    fun rest h => modifierOf_append h keycode
  rcases modifierOf_cases keycodes width keycode with ⟨hnone, hzero⟩ | ⟨last, hlast, hlt, hbit⟩
  · refine ⟨fun slot => ?_, iff_of_true hzero hnone, fun _ => hzero, .inl hzero, hrest⟩
    rw [hnone, hzero]
    exact iff_of_false (Nat.two_pow_pos slot).ne fun h => h.1
  · have hne : slots keycodes width keycode ≠ ∅ := fun hnone =>
      Set.notMem_empty last (hnone ▸ hlast.1)
    refine ⟨fun slot => ?_, iff_of_false (fun hzero => ?_) hne, fun h => absurd (hempty h) hne,
      .inr ⟨last, hlt, hbit⟩, hrest⟩
    · rw [hbit]
      constructor
      · exact fun hpow => Nat.pow_right_injective (Nat.le_refl 2) hpow ▸ hlast
      · exact fun hslot => by rw [hlast.unique hslot]
    · rw [hzero] at hbit
      exact absurd hbit (Nat.two_pow_pos last).ne

/-- The keycode stands in the second and in the eighth slot, and behind them. -/
theorem modifier_of_greatest_slot_eighth :
    modifierOf ([1, 9, 3, 4, 5, 6, 7, 9] ++ [9, 9]) 1 (some 9) = 128 ∧
    modifierOf ([1, 2, 9, 4, 5, 6] ++ [9]) 2 (some 9) = 2 := by
  constructor
  · rw [(modifier_of_greatest_slot [1, 9, 3, 4, 5, 6, 7, 9] 1 (some 9)).2.2.2.2 [9, 9]
      (.inl (by decide))]
    decide
  · rw [(modifier_of_greatest_slot [1, 2, 9, 4, 5, 6] 2 (some 9)).2.2.2.2 [9]
      (.inr (by decide))]
    decide

end Modifiers

/-! ### The modifier of a keysym -/

/-- The bit of the modifier that a keysym has on a keyboard: that of the last modifier that its
first keycode acts as. -/
inductive HasBit (keysyms : List UInt32) (width : ℕ) (least : UInt8) (target : UInt32)
    (keycodes : List UInt8) (share : ℕ) : UInt16 → Prop
  | noKeycode
      (late : ∀ column row, Produces keysyms width target column row → 255 < least.toNat + row) :
      HasBit keysyms width least target keycodes share 0
  | noModifier {k : UInt8} (first : IsFirst keysyms width least target k)
      (none : ∀ slot, ¬ ActsAs keycodes share k slot) :
      HasBit keysyms width least target keycodes share 0
  | modifier {k : UInt8} {slot : ℕ} {bit : UInt16} (first : IsFirst keysyms width least target k)
      (acts : ActsAs keycodes share k slot)
      (last : ∀ slot', slot < slot' → ¬ ActsAs keycodes share k slot')
      (value : bit.toNat = 2 ^ slot) : HasBit keysyms width least target keycodes share bit

/-- **The modifier of a keysym is found.** -/
theorem hasBit_modifierOf (keysyms : List UInt32) (width : ℕ) (least : UInt8) (target : UInt32)
    (keycodes : List UInt8) (share : ℕ) :
    HasBit keysyms width least target keycodes share
      (modifierOf keycodes share (keycodeOf? keysyms width least target)) := by
  cases hkeycode : keycodeOf? keysyms width least target with
  | none => exact .noKeycode (keycodeOf?_eq_none_iff.mp hkeycode)
  | some k =>
    have hfirst := keycodeOf?_eq_some_iff.mp hkeycode
    rcases modifierOf_cases keycodes share (some k) with ⟨hnone, hzero⟩ | ⟨last, hlast, -, hbit⟩
    · rw [hzero]
      exact .noModifier hfirst fun slot hslot =>
        Set.eq_empty_iff_forall_notMem.mp hnone slot ⟨k, rfl, hslot⟩
    · obtain ⟨⟨_, ⟨⟩, hacts⟩, hgreatest⟩ := hlast
      exact .modifier hfirst hacts
        (fun slot hlt hslot => Nat.not_le.mpr hlt (hgreatest ⟨k, rfl, hslot⟩)) hbit

end WmConfig.Keyboard
