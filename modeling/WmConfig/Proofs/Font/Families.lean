import WmConfig.Proofs.Font.Escapes
import WmConfig.Proofs.Font.Properties

/-! # Families written as they are

Names without backslashes, commas and colons need no escapes: joined by commas they are read back, with
a size behind a hyphen, or with twelve points if no size stands behind their last hyphen
(`names_read_back`). Blanks around the names and blank items between them make no difference
(`Lists`). -/

namespace WmConfig.FontDescriptor

/-! ### Lists of names -/

/-- **The items list the names**: each name with blanks around it, and blank items anywhere. -/
inductive Lists : List (List Char) → List String → Prop
  | nil : Lists [] []
  | blank {items : List (List Char)} {names : List String} {item : List Char}
      (front : Lists items names) (blanks : AreBlanks item) : Lists (items ++ [item]) names
  | name {items : List (List Char)} {names : List String} {before after : List Char} {name : String}
      (front : Lists items names) (blanks_before : AreBlanks before)
      (blanks_after : AreBlanks after) :
      Lists (items ++ [before ++ name.toList ++ after]) (names ++ [name])

/-- Items with commas between them. -/
def joined (items : List (List Char)) : List Char := [','].intercalate items

/-- Items with a comma behind each. -/
def led (items : List (List Char)) : List Char := items.flatMap (· ++ [','])

section Items
variable {items front : List (List Char)} {names : List String} {last : List Char}

theorem joined_concat (front : List (List Char)) (last : List Char) :
    joined (front ++ [last]) = led front ++ last := by
  induction front with
  | nil => simp [joined, led]
  | cons item front ih =>
    obtain ⟨next, others, hnext⟩ := List.exists_cons_of_ne_nil (l := front ++ [last]) (by simp)
    rw [joined, hnext] at ih
    rw [List.cons_append, joined, hnext, List.intercalate_cons_cons, ih]
    simp [led]

/-- The end of joined items without a comma in it is an end of the last one. -/
theorem suffix_of_joined_concat {rest : List Char} (h : rest <:+ joined (front ++ [last]))
    (hrest : ',' ∉ rest) : rest <:+ last := by
  obtain ⟨before, hjoined⟩ := h
  rw [joined_concat] at hjoined
  rcases List.append_eq_append_iff.mp hjoined with ⟨c, hled, rfl⟩ | ⟨u, -, hlast⟩
  · rcases List.eq_nil_or_concat c with rfl | ⟨c, d, rfl⟩
    · exact List.suffix_refl _
    · -- What stands in front of the last item ends with a comma.
      exfalso
      rcases List.eq_nil_or_concat front with rfl | ⟨front, item, rfl⟩
      · simp [led] at hled
      · have hend : led (front.concat item) = led front ++ item ++ [','] := by simp [led]
        rw [hend, List.concat_eq_append, ← List.append_assoc] at hled
        obtain ⟨-, hcomma⟩ := List.append_inj' hled rfl
        obtain rfl : ',' = d := by simpa using hcomma
        simp at hrest
  · exact ⟨u, hlast.symm⟩

theorem Lists.ne_nil (h : Lists items names) (hne : names ≠ []) : items ≠ [] := by
  cases h with
  | nil => exact absurd rfl hne
  | blank => simp
  | name => simp

/-- The names themselves. -/
theorem lists_names (names : List String) : Lists (names.map String.toList) names := by
  induction names using List.reverseRecOn with
  | nil => exact .nil
  | append_singleton names name ih =>
    have hlists : Lists (_ ++ [[] ++ name.toList ++ []]) (names ++ [name]) :=
      ih.name areBlanks_nil areBlanks_nil
    simpa using hlists

/-- Only blanks are added to the characters of the names. -/
theorem Lists.notMem {c : Char} (h : Lists items names) (hc : isBlank c = false)
    (hnames : ∀ name ∈ names, c ∉ name.toList) : ∀ item ∈ items, c ∉ item := by
  induction h with
  | nil => exact fun item hitem => absurd hitem List.not_mem_nil
  | blank front blanks ih =>
    intro item hitem
    rcases List.mem_append.mp hitem with hitem | hitem
    · exact ih hnames item hitem
    · rw [List.mem_singleton.mp hitem]
      exact blanks.notMem hc
  | name front blanks_before blanks_after ih =>
    intro item hitem
    rcases List.mem_append.mp hitem with hitem | hitem
    · exact ih (fun name hname => hnames name (List.mem_append_left _ hname)) item hitem
    · rw [List.mem_singleton.mp hitem, List.mem_append, List.mem_append, not_or, not_or]
      exact ⟨⟨blanks_before.notMem hc, hnames _ (List.mem_append_right _ List.mem_cons_self)⟩,
        blanks_after.notMem hc⟩

theorem familyOf_surround {before after : List Char} (hbefore : AreBlanks before)
    (hafter : AreBlanks after) (item : List Char) :
    familyOf (before ++ item ++ after) = familyOf item := by
  rw [familyOf, trim_surround hbefore hafter, familyOf]

theorem familyOf_name {name : String} (h : IsName name) (hplain : IsPlain name.toList) :
    familyOf name.toList = name := by
  have hkept : name.toList.filter (· != '\\') = name.toList :=
    List.filter_eq_self.mpr fun c hc => bne_iff_ne.mpr (hplain c hc).1
  rw [familyOf, h.2.trim_eq, hkept, String.ofList_toList]

/-- The items are read as the names. -/
theorem Lists.families (h : Lists items names)
    (hnames : ∀ name ∈ names, IsName name ∧ IsPlain name.toList) :
    (items.map familyOf).filter (· != "") = names := by
  induction h with
  | nil => rfl
  | @blank items names item front blanks ih =>
    have hitem : familyOf item = "" := by
      rw [familyOf, blanks.trim_eq]
      rfl
    rw [List.map_append, List.filter_append, ih hnames, List.map_singleton, hitem]
    exact List.append_nil names
  | @name items names before after name front blanks_before blanks_after ih =>
    obtain ⟨hname, hplain⟩ := hnames name (List.mem_append_right _ List.mem_cons_self)
    have hitem : familyOf (before ++ name.toList ++ after) = name := by
      rw [familyOf_surround blanks_before blanks_after, familyOf_name hname hplain]
    have hkept : [name].filter (· != "") = [name] := by simpa using hname.1
    rw [List.map_append, List.filter_append, ih fun n hn => hnames n (List.mem_append_left _ hn),
      List.map_singleton, hitem, hkept]

end Items

/-! ### The size behind the last name -/

theorem isSize_append_blanks {after : List Char} (hafter : AreBlanks after) (cs : List Char)
    (x : Binary32) : IsSize (cs ++ after) x ↔ IsSize cs x := by
  have htrim : trim (cs ++ after) = trim cs := trim_surround areBlanks_nil hafter cs
  rw [IsSize, IsSize, sizeOf?, sizeOf?, htrim]

/-- Whether a size stands behind the last hyphen of listed names is up to the last name. -/
theorem unsized_joined_iff {front : List (List Char)} {before after name : List Char}
    (hbefore : AreBlanks before) (hafter : AreBlanks after) :
    Unsized (joined (front ++ [before ++ name ++ after])) ↔ Unsized name := by
  have hhyphen : ∀ {cs : List Char}, AreBlanks cs → '-' ∉ cs := fun h => h.notMem (by decide)
  constructor
  · rintro h v w x rfl hw hx
    refine h (led front ++ before ++ v) (w ++ after) x ?_ ?_ ((isSize_append_blanks hafter w x).mpr hx)
    · rw [joined_concat]
      simp
    · rw [List.mem_append, not_or]
      exact ⟨hw, hhyphen hafter⟩
  · intro h u w x hjoined hw hx
    have hcomma : ',' ∉ '-' :: w := by
      rw [List.mem_cons, not_or]
      exact ⟨by decide, hx.comma_notMem⟩
    obtain ⟨u', hlast⟩ := suffix_of_joined_concat ⟨u, hjoined.symm⟩ hcomma
    cases hcut : cutLast? '-' name with
    | none =>
      have hmem : '-' ∈ before ++ name ++ after := hlast ▸ by simp
      simp [hhyphen hbefore, hhyphen hafter, cutLast?_eq_none_iff.mp hcut] at hmem
    | some parts =>
      obtain ⟨v, size⟩ := parts
      obtain ⟨rfl, hsize⟩ := cutLast?_eq_some_iff.mp hcut
      -- There is one last hyphen only: that of the name.
      have hafter' : '-' ∉ size ++ after := by
        rw [List.mem_append, not_or]
        exact ⟨hsize, hhyphen hafter⟩
      have hlast' : u' ++ '-' :: w = (before ++ v) ++ '-' :: (size ++ after) := by
        rw [hlast]
        simp
      obtain ⟨-, rfl⟩ := eq_of_last_cut hlast' hw hafter'
      exact h v size x rfl hsize ((isSize_append_blanks hafter size x).mp hx)

/-- Listed without blanks, the last name is an item with no blanks around it. -/
theorem listed_concat (names : List String) (name : String) :
    listed (names ++ [name]) = joined (names.map String.toList ++ [[] ++ name.toList ++ []]) := by
  simp [listed, joined]

/-- Blanks do not make a size of the end of a list of names. -/
theorem Lists.unsized {items : List (List Char)} {names : List String} (h : Lists items names)
    (hne : names ≠ []) (hunsized : Unsized (listed names)) : Unsized (joined items) := by
  cases h with
  | nil => exact absurd rfl hne
  | @blank items _ item front blanks =>
    have hempty : Unsized item := fun before after x hitem => by
      have hhyphen : '-' ∉ item := blanks.notMem (by decide)
      simp [hitem] at hhyphen
    simpa using (unsized_joined_iff areBlanks_nil areBlanks_nil).mpr hempty
  | @name items names before after name front blanks_before blanks_after =>
    rw [listed_concat, unsized_joined_iff areBlanks_nil areBlanks_nil] at hunsized
    exact (unsized_joined_iff blanks_before blanks_after).mpr hunsized

/-! ### Reading the names back -/

section Reading
variable {items : List (List Char)} {names : List String}

theorem colon_notMem_joined (hcolons : ∀ item ∈ items, ':' ∉ item) : ':' ∉ joined items := by
  rw [joined, ← List.count_eq_zero, count_intercalate (by decide)]
  refine List.sum_eq_zero fun n hn => ?_
  obtain ⟨item, hitem, rfl⟩ := List.mem_map.mp hn
  exact List.count_eq_zero.mpr (hcolons item hitem)

theorem parse_ofList {cs : List Char} (h : ':' ∉ cs) :
    parse (String.ofList cs) = ofHead (String.ofList cs) cs := by
  rw [parse_of_colon_notMem (by rwa [String.toList_ofList]), String.toList_ofList]

/-- Items with a size behind them. -/
theorem parse_joined_of_size (hne : items ≠ []) (hcommas : ∀ item ∈ items, ',' ∉ item)
    (hcolons : ∀ item ∈ items, ':' ∉ item) {size : List Char} {x : Binary32} (hsize : '-' ∉ size)
    (hx : IsSize size x) :
    parse (String.ofList (joined items ++ '-' :: size)) =
      ⟨String.ofList (joined items ++ '-' :: size), (items.map familyOf).filter (· != ""),
        .points x, none⟩ := by
  have hcolon : ':' ∉ joined items ++ '-' :: size := by
    rw [List.mem_append, List.mem_cons, not_or, not_or]
    exact ⟨colon_notMem_joined hcolons, by decide, hx.colon_notMem⟩
  rw [parse_ofList hcolon, ofHead, splitSize_of_size hsize hx]
  simp only [joined, familiesOf_intercalate hne hcommas]

variable (hnames : ∀ name ∈ names, IsName name ∧ IsPlain name.toList)
include hnames

theorem Lists.comma_notMem (h : Lists items names) : ∀ item ∈ items, ',' ∉ item :=
  h.notMem (by decide) fun name hname hc => ((hnames name hname).2 _ hc).2.1 rfl

theorem Lists.colon_notMem (h : Lists items names) : ∀ item ∈ items, ':' ∉ item :=
  h.notMem (by decide) fun name hname hc => ((hnames name hname).2 _ hc).2.2 rfl

/-- **Listed names with a size behind them.** -/
theorem Lists.parse_of_size (h : Lists items names) (hne : names ≠ []) {size : List Char}
    {x : Binary32} (hsize : '-' ∉ size) (hx : IsSize size x) :
    parse (String.ofList (joined items ++ '-' :: size)) =
      ⟨String.ofList (joined items ++ '-' :: size), names, .points x, none⟩ := by
  rw [parse_joined_of_size (h.ne_nil hne) (h.comma_notMem hnames) (h.colon_notMem hnames) hsize hx,
    h.families hnames]

/-- **Listed names without a size.** -/
theorem Lists.parse_of_unsized (h : Lists items names) (hne : names ≠ [])
    (hunsized : Unsized (joined items)) :
    parse (String.ofList (joined items)) =
      ⟨String.ofList (joined items), names, defaultSize, none⟩ := by
  rw [parse_ofList (colon_notMem_joined (h.colon_notMem hnames)), ofHead,
    splitSize_of_unsized hunsized]
  simp only [joined, familiesOf_intercalate (h.ne_nil hne) (h.comma_notMem hnames),
    h.families hnames]

/-- A last name with a size behind its last hyphen gives up both. -/
theorem Lists.parse_of_sized (h : Lists items names) {before after v w : List Char}
    (hbefore : AreBlanks before) (hafter : AreBlanks after) (hplain : IsPlain v) (hw : '-' ∉ w)
    {x : Binary32} (hx : IsSize w x) :
    parse (String.ofList (joined (items ++ [before ++ (v ++ '-' :: w) ++ after]))) =
      ⟨String.ofList (joined (items ++ [before ++ (v ++ '-' :: w) ++ after])),
        names ++ [familyOf v].filter (· != ""), .points x, none⟩ := by
  have htext : joined (items ++ [before ++ (v ++ '-' :: w) ++ after]) =
      joined (items ++ [before ++ v]) ++ '-' :: (w ++ after) := by
    rw [joined_concat, joined_concat]
    simp
  have hfamily : familyOf (before ++ v) = familyOf v := by
    simpa using familyOf_surround hbefore areBlanks_nil v
  have hhyphen : '-' ∉ w ++ after := by
    rw [List.mem_append, not_or]
    exact ⟨hw, hafter.notMem (by decide)⟩
  have hmarks : ∀ c, isBlank c = false → c ∉ v → (∀ item ∈ items, c ∉ item) →
      ∀ item ∈ items ++ [before ++ v], c ∉ item := by
    intro c hc hv hitems item hitem
    rcases List.mem_append.mp hitem with hitem | hitem
    · exact hitems item hitem
    · rw [List.mem_singleton.mp hitem, List.mem_append, not_or]
      exact ⟨hbefore.notMem hc, hv⟩
  rw [htext, parse_joined_of_size (by simp)
    (hmarks ',' (by decide) (fun hc => (hplain _ hc).2.1 rfl) (h.comma_notMem hnames))
    (hmarks ':' (by decide) (fun hc => (hplain _ hc).2.2 rfl) (h.colon_notMem hnames)) hhyphen
    ((isSize_append_blanks hafter w x).mpr hx), List.map_append, List.filter_append,
    h.families hnames, List.map_singleton, hfamily]

/-- **Blanks make no difference**, whatever stands behind the last hyphen, as long as the last item
is not blank. -/
theorem Lists.parse_alike (h : Lists items names) (hne : names ≠ [])
    (hlast : ∀ item ∈ items.getLast?, ¬ AreBlanks item) : ∃ families size,
      parse (String.ofList (joined items)) =
        ⟨String.ofList (joined items), families, size, none⟩ ∧
      parse (String.ofList (listed names)) =
        ⟨String.ofList (listed names), families, size, none⟩ := by
  cases h with
  | nil => exact absurd rfl hne
  | @blank items _ item front blanks => exact absurd blanks (hlast item (by simp))
  | @name items names before after name front blanks_before blanks_after =>
    rcases splitSize_cases name.toList with ⟨v, w, x, hname, hw, hx, -⟩ | ⟨hunsized, -⟩
    · have hplain : IsPlain v := fun c hc =>
        (hnames name (List.mem_append_right _ List.mem_cons_self)).2 c
          (hname ▸ List.mem_append_left _ hc)
      have hfront : ∀ n ∈ names, IsName n ∧ IsPlain n.toList := fun n hn =>
        hnames n (List.mem_append_left _ hn)
      refine ⟨names ++ [familyOf v].filter (· != ""), .points x, ?_, ?_⟩
      · rw [hname]
        exact front.parse_of_sized hfront blanks_before blanks_after hplain hw hx
      · rw [listed_concat, hname]
        exact (lists_names names).parse_of_sized hfront areBlanks_nil areBlanks_nil hplain hw hx
    · have hitems : Lists _ (names ++ [name]) := front.name blanks_before blanks_after
      have hlisted : Unsized (listed (names ++ [name])) := by
        rwa [listed_concat, unsized_joined_iff areBlanks_nil areBlanks_nil]
      exact ⟨names ++ [name], defaultSize,
        hitems.parse_of_unsized hnames hne (hitems.unsized hne hlisted),
        (lists_names _).parse_of_unsized hnames hne hlisted⟩

end Reading

/-- **Names are read back**, listed as they are or with blanks around them and blank items anywhere:
with a size behind a hyphen they have that size, and with no size behind the last hyphen they have
twelve points. Blanks do not make a size of what is none; and they make no difference at all if the
last item is not blank. The text is kept as it is. -/
theorem names_read_back (names : List String) (hne : names ≠ [])
    (hnames : ∀ name ∈ names, IsName name ∧ IsPlain name.toList) (items : List (List Char))
    (h : Lists items names) :
    Lists (names.map String.toList) names ∧
    (∀ size x, '-' ∉ size → IsSize size x →
      parse (String.ofList (joined items ++ '-' :: size)) =
        ⟨String.ofList (joined items ++ '-' :: size), names, .points x, none⟩) ∧
    (Unsized (joined items) →
      parse (String.ofList (joined items)) =
        ⟨String.ofList (joined items), names, defaultSize, none⟩) ∧
    (Unsized (listed names) → Unsized (joined items)) ∧
    ((∀ item ∈ items.getLast?, ¬ AreBlanks item) → ∃ families size,
      parse (String.ofList (joined items)) =
        ⟨String.ofList (joined items), families, size, none⟩ ∧
      parse (String.ofList (listed names)) =
        ⟨String.ofList (listed names), families, size, none⟩) ∧
    ∀ raw, (parse raw).raw = raw :=
  ⟨lists_names names, fun _ _ hsize hx => h.parse_of_size hnames hne hsize hx,
    h.parse_of_unsized hnames hne, h.unsized hne, h.parse_alike hnames hne, raw_parse⟩

/-- Blanks around names and between them, a hyphen in a name, and a size with a blank in front. -/
theorem names_read_back_blanks :
    parse " Fira Code, ,x-height\t- 7.5" =
      ⟨" Fira Code, ,x-height\t- 7.5", ["Fira Code", "x-height"], .points (.ofRatio false 15 2),
        none⟩ ∧
    parse " Fira Code, ,x-height\t" =
      ⟨" Fira Code, ,x-height\t", ["Fira Code", "x-height"], defaultSize, none⟩ := by
  have hlists : Lists [[' '] ++ "Fira Code".toList ++ [], [' '], [] ++ "x-height".toList ++ ['\t']]
      ["Fira Code", "x-height"] :=
    ((Lists.nil.name (by decide) areBlanks_nil).blank (by decide)).name areBlanks_nil (by decide)
  have hnames : ∀ name ∈ ["Fira Code", "x-height"], IsName name ∧ IsPlain name.toList := by
    decide +kernel
  have hsize : IsSize [' ', '7', '.', '5'] (.ofRatio false 15 2) := by decide +kernel
  obtain ⟨-, hsized, hdefault, hunsized, -⟩ :=
    names_read_back ["Fira Code", "x-height"] (by decide) hnames _ hlists
  exact ⟨hsized _ _ (by decide) hsize, hdefault (hunsized (by decide +kernel))⟩

end WmConfig.FontDescriptor
