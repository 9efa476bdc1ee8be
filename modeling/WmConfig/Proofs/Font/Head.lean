import WmConfig.Font.Descriptor
import WmConfig.Proofs.Number.Digits
import WmConfig.Proofs.Text.Cut

/-! # The head of a font descriptor

The head stands before the properties, which leave the families alone (`families_parse`). What follows
its last hyphen is a size if it is read as a number above zero, and else belongs to a family
(`splitSize_cases`). The families have all characters of their part of the head but the commas, the
backslashes and blanks at the ends (`sum_count_familiesOf`), so whatever the text is, none of these
and no colon stands in a family (`ne_of_mem_families`). -/

namespace WmConfig

/-! ### The characters of a number -/

namespace Binary

/-- A character that stands in no number. -/
structure IsForeign (c : Char) : Prop where
  digit : c.isDigit = false
  value : ¬ Numeral.digitValue c < 10
  mark : c ∉ ['+', '-', '.', 'e', 'E']
  word : ∀ word ∈ ["inf", "infinity", "nan"], c.toLower ∉ word.toList

variable {c : Char} {cs : List Char}

theorem IsForeign.notMem_digits (hc : IsForeign c) (h : Numeral.AreDigits 10 cs) : c ∉ cs :=
  fun hmem => hc.value (h c hmem)

theorem IsForeign.notMem_takeWhile (hc : IsForeign c) : c ∉ cs.takeWhile Char.isDigit :=
  fun hmem => absurd (hc.digit.symm.trans (List.mem_takeWhile_imp hmem)) Bool.false_ne_true

theorem IsForeign.mem_of_mem_splitSign (hc : IsForeign c) (h : c ∈ cs) :
    c ∈ (Decimal.splitSign cs).2 := by
  have hmark := hc.mark
  simp only [List.mem_cons, not_or] at hmark
  unfold Decimal.splitSign
  split
  · exact (List.mem_cons.mp h).resolve_left hmark.1
  · exact (List.mem_cons.mp h).resolve_left hmark.2.1
  · exact h

theorem IsForeign.notMem_exponent (hc : IsForeign c) {e : Int} (h : Decimal.exponent? cs = some e) :
    c ∉ cs := by
  cases cs with
  | nil => exact List.not_mem_nil
  | cons d ds =>
    have hmark := hc.mark
    simp only [List.mem_cons, not_or] at hmark
    rw [Decimal.exponent?] at h
    split_ifs at h with hd
    rw [List.mem_cons, not_or]
    constructor
    · rcases hd with rfl | rfl
      · exact hmark.2.2.2.1
      · exact hmark.2.2.2.2.1
    · obtain ⟨_, hvalue, -⟩ := Option.map_eq_some_iff.mp h
      obtain ⟨n, hn, -⟩ := Option.bind_eq_some_iff.mp hvalue
      obtain ⟨-, hdigits, -⟩ := (Numeral.value?_eq_some_iff (by decide)).mp hn
      exact fun hmem => hc.notMem_digits hdigits (hc.mem_of_mem_splitSign hmem)

/-- What is left of a point and the digits behind it. -/
theorem IsForeign.notMem_splitFraction (hc : IsForeign c)
    (h : c ∉ (Decimal.splitFraction cs).2) : c ∉ cs := by
  have hmark := hc.mark
  simp only [List.mem_cons, not_or] at hmark
  unfold Decimal.splitFraction at h
  split at h
  · next ds =>
    rw [List.mem_cons, not_or, ← List.takeWhile_append_dropWhile (p := Char.isDigit) (l := ds),
      List.mem_append, not_or]
    exact ⟨hmark.2.2.1, hc.notMem_takeWhile, h⟩
  · exact h

/-- An unsigned numeral is digits, a point and more digits, and an exponent. -/
theorem IsForeign.notMem_unsigned (hc : IsForeign c) {negative : Bool} {d : Decimal}
    (h : Decimal.unsigned? negative cs = some d) : c ∉ cs := by
  obtain ⟨e, he, -⟩ := Option.bind_eq_some_iff.mp h
  rw [← List.takeWhile_append_dropWhile (p := Char.isDigit) (l := cs), List.mem_append, not_or]
  exact ⟨hc.notMem_takeWhile, hc.notMem_splitFraction (hc.notMem_exponent he)⟩

/-- **A text that is read as a number** has no other characters. -/
theorem IsForeign.notMem_of_ofText? (hc : IsForeign c) {p : Precision} {x : Binary p}
    (h : ofText? p cs = some x) : c ∉ cs := by
  refine fun hmem => absurd (hc.mem_of_mem_splitSign hmem) ?_
  rw [ofText?] at h
  generalize Decimal.splitSign cs = parts at h ⊢
  obtain ⟨negative, rest⟩ := parts
  have hword : ∀ word ∈ ["inf", "infinity", "nan"], rest.map Char.toLower = word.toList → c ∉ rest :=
    fun word hmem hrest hc' => hc.word word hmem (hrest ▸ List.mem_map_of_mem hc')
  simp only at h ⊢
  split_ifs at h with hinfinity hnan
  · rcases hinfinity with hinfinity | hinfinity
    · exact hword "inf" (by decide) hinfinity
    · exact hword "infinity" (by decide) hinfinity
  · exact hword "nan" (by decide) hnan
  · obtain ⟨d, hd, -⟩ := Option.map_eq_some_iff.mp h
    exact hc.notMem_unsigned hd

end Binary

namespace FontDescriptor

/-! ### Sizes -/

/-- The text is a size above zero. -/
def IsSize (cs : List Char) (x : Binary32) : Prop :=
  sizeOf? cs = some x ∧ (Binary.zero false).lt x = true

instance (cs : List Char) (x : Binary32) : Decidable (IsSize cs x) :=
  inferInstanceAs (Decidable (_ ∧ _))

/-- No character stands in a size that stands in no number and is no blank. -/
theorem IsSize.notMem {cs : List Char} {x : Binary32} (h : IsSize cs x) {c : Char}
    (hforeign : Binary.IsForeign c) (hblank : isBlank c = false) : c ∉ cs := by
  rw [← List.count_eq_zero, ← count_trim hblank, List.count_eq_zero]
  exact hforeign.notMem_of_ofText? h.1

theorem IsSize.colon_notMem {cs : List Char} {x : Binary32} (h : IsSize cs x) : ':' ∉ cs :=
  h.notMem ⟨by decide, by decide, by decide, by decide⟩ (by decide)

theorem IsSize.comma_notMem {cs : List Char} {x : Binary32} (h : IsSize cs x) : ',' ∉ cs :=
  h.notMem ⟨by decide, by decide, by decide, by decide⟩ (by decide)

theorem splitSize_of_size {families size : List Char} {x : Binary32} (hsize : '-' ∉ size)
    (h : IsSize size x) : splitSize (families ++ '-' :: size) = (families, .points x) := by
  simp only [splitSize, cutLast?_eq_some_iff.mpr ⟨rfl, hsize⟩, h.1, h.2, if_true]

/-- No size stands behind the last hyphen. -/
def Unsized (head : List Char) : Prop :=
  ∀ before after x, head = before ++ '-' :: after → '-' ∉ after → ¬ IsSize after x

theorem splitSize_of_unsized {head : List Char} (h : Unsized head) :
    splitSize head = (head, defaultSize) := by
  rw [splitSize]
  cases hcut : cutLast? '-' head with
  | none => rfl
  | some parts =>
    obtain ⟨families, size⟩ := parts
    obtain ⟨hhead, hsize⟩ := cutLast?_eq_some_iff.mp hcut
    cases hread : sizeOf? size with
    | none => simp only [hread]
    | some x =>
      simp only [hread]
      exact if_neg fun hpos => h _ _ _ hhead hsize ⟨hread, hpos⟩

/-- **Where the size is**: behind the last hyphen, if a size stands there. -/
theorem splitSize_cases (head : List Char) :
    (∃ families size x, head = families ++ '-' :: size ∧ '-' ∉ size ∧ IsSize size x ∧
      splitSize head = (families, .points x)) ∨
      Unsized head ∧ splitSize head = (head, defaultSize) := by
  by_cases h : Unsized head
  · exact .inr ⟨h, splitSize_of_unsized h⟩
  · simp only [Unsized, not_forall, not_not] at h
    obtain ⟨families, size, x, rfl, hsize, hx⟩ := h
    exact .inl ⟨families, size, x, rfl, hsize, hx, splitSize_of_size hsize hx⟩

theorem unsized_iff (head : List Char) : Unsized head ↔ (splitSize head).1 = head := by
  refine ⟨fun h => by rw [splitSize_of_unsized h], fun h before after x hhead hafter hx => ?_⟩
  rw [hhead, splitSize_of_size hafter hx] at h
  simp at h

instance (head : List Char) : Decidable (Unsized head) :=
  decidable_of_iff _ (unsized_iff head).symm

/-! ### Families -/

/-- The family that an item of the list names, empty for an item that is passed over. -/
def familyOf (item : List Char) : String := String.ofList ((trim item).filter (· != '\\'))

theorem familiesOf_eq (cs : List Char) :
    familiesOf cs = ((cs.splitOn ',').map familyOf).filter (· != "") := rfl

/-- Items with commas between them. -/
theorem familiesOf_intercalate {items : List (List Char)} (hne : items ≠ [])
    (hitems : ∀ item ∈ items, ',' ∉ item) :
    familiesOf ([','].intercalate items) = (items.map familyOf).filter (· != "") := by
  rw [familiesOf_eq, List.splitOn_intercalate ',' hitems hne]

theorem count_familyOf {c : Char} (hblank : isBlank c = false) (hc : c ≠ '\\') (item : List Char) :
    (familyOf item).toList.count c = item.count c := by
  rw [familyOf, String.toList_ofList, List.count_filter (by simpa using hc), count_trim hblank]

theorem sum_count_filter (families : List String) (c : Char) :
    ((families.filter (· != "")).map (·.toList.count c)).sum =
      (families.map (·.toList.count c)).sum := by
  induction families with
  | nil => rfl
  | cons family families ih =>
    by_cases hfamily : family = ""
    · subst hfamily
      simpa using ih
    · simp [hfamily, ih]

/-- **No other character is lost or counted twice.** -/
theorem sum_count_familiesOf {c : Char} (hblank : isBlank c = false) (hc : c ≠ '\\') (hcomma : c ≠ ',')
    (cs : List Char) : ((familiesOf cs).map (·.toList.count c)).sum = cs.count c := by
  rw [familiesOf_eq, sum_count_filter, List.map_map, count_eq_sum_splitOn hcomma]
  exact congrArg List.sum (List.map_congr_left fun item _ => count_familyOf hblank hc item)

theorem mem_of_mem_familiesOf {cs : List Char} {family : String} (h : family ∈ familiesOf cs)
    {c : Char} (hc : c ∈ family.toList) : c ∈ cs ∧ c ≠ '\\' ∧ c ≠ ',' := by
  rw [familiesOf_eq] at h
  obtain ⟨item, hitem, rfl⟩ := List.mem_map.mp (List.mem_of_mem_filter h)
  rw [familyOf, String.toList_ofList, List.mem_filter] at hc
  have hmem := mem_of_mem_trim hc.1
  exact ⟨mem_of_mem_splitOn hitem hmem, by simpa using hc.2,
    fun hcomma => notMem_of_mem_splitOn hitem (hcomma ▸ hmem)⟩

/-! ### The head -/

theorem families_ofHead (raw : String) (head : List Char) :
    (ofHead raw head).families = familiesOf (splitSize head).1 := rfl

theorem families_applyProperty (d : FontDescriptor) (property : List Char) :
    (d.applyProperty property).families = d.families := by
  unfold applyProperty
  repeat' split
  all_goals rfl

theorem families_foldl (properties : List (List Char)) (d : FontDescriptor) :
    (properties.foldl applyProperty d).families = d.families := by
  induction properties generalizing d with
  | nil => rfl
  | cons property properties ih => rw [List.foldl_cons, ih, families_applyProperty]

/-- The properties act on the head, one after the other. -/
theorem exists_parse_eq (raw : String) : ∃ head properties,
    raw.toList.splitOn ':' = head :: properties ∧
      parse raw = properties.foldl applyProperty (ofHead raw head) := by
  obtain ⟨head, properties, hpieces⟩ :=
    List.exists_cons_of_ne_nil (List.splitOn_ne_nil ':' raw.toList)
  exact ⟨head, properties, hpieces, by rw [parse, hpieces]⟩

/-- **The families are those of the head**, whatever properties follow. -/
theorem families_parse (raw : String) : ∃ head properties,
    raw.toList.splitOn ':' = head :: properties ∧
      (parse raw).families = familiesOf (splitSize head).1 := by
  obtain ⟨head, properties, hpieces, hparse⟩ := exists_parse_eq raw
  exact ⟨head, properties, hpieces, hparse ▸ families_foldl properties _⟩

/-- A text without a colon is all head. -/
theorem parse_of_colon_notMem {raw : String} (h : ':' ∉ raw.toList) :
    parse raw = ofHead raw raw.toList := by
  have hpieces : raw.toList.splitOn ':' = [raw.toList] := List.splitOn_eq_singleton h
  rw [parse, hpieces]
  rfl

/-- The part of the head with the families. -/
theorem mem_head_of_mem_splitSize {head : List Char} {c : Char} (h : c ∈ (splitSize head).1) :
    c ∈ head := by
  rcases splitSize_cases head with ⟨families, size, x, rfl, -, -, hsplit⟩ | ⟨-, hsplit⟩
  · rw [hsplit] at h
    exact List.mem_append_left _ h
  · rwa [hsplit] at h

/-- **No special character stands in a family**, a hyphen apart. -/
theorem ne_of_mem_families {raw family : String} (h : family ∈ (parse raw).families) {c : Char}
    (hc : c ∈ family.toList) : c ≠ '\\' ∧ c ≠ ',' ∧ c ≠ ':' := by
  obtain ⟨head, properties, hpieces, hfamilies⟩ := families_parse raw
  obtain ⟨hmem, hbackslash, hcomma⟩ := mem_of_mem_familiesOf (hfamilies ▸ h) hc
  have hhead : head ∈ raw.toList.splitOn ':' := hpieces ▸ List.mem_cons_self
  exact ⟨hbackslash, hcomma,
    fun hcolon => notMem_of_mem_splitOn hhead (hcolon ▸ mem_head_of_mem_splitSize hmem)⟩

end FontDescriptor

end WmConfig
