import WmConfig.Proofs.Font.Head

/-! # Family names written out

The written form puts a backslash in front of each character that means something outside names, a
comma between the names and a hyphen in front of the size. Its reader cuts first and drops the
backslashes then, so it reads the names back iff they have no backslash, comma or colon and the last
hyphen does not mislead it (`escaped_families_iff`). -/

namespace WmConfig.FontDescriptor

/-! ### The written form -/

/-- The characters that mean something outside names. -/
def special : List Char := ['\\', '-', ':', ',']

/-- A name with a backslash in front of each special character. -/
def escape (name : List Char) : List Char :=
  name.flatMap fun c => if c ∈ special then ['\\', c] else [c]

/-- The names with commas between them. -/
def listed (names : List String) : List Char := [','].intercalate (names.map String.toList)

/-- The escaped names with commas between them. -/
def escaped (names : List String) : List Char := [','].intercalate (names.map (escape ·.toList))

/-- The names written out, and a size behind a hyphen if there is one. -/
def written (names : List String) (size : Option (List Char)) : String :=
  String.ofList (escaped names ++ size.elim [] ('-' :: ·))

/-- A family name: it is not empty and has no blank at an end. -/
def IsName (name : String) : Prop := name ≠ "" ∧ IsTrimmed name.toList

instance (name : String) : Decidable (IsName name) := inferInstanceAs (Decidable (_ ∧ _))

/-- The size that is written, twelve points if none is. -/
inductive SizeWritten : Option (List Char) → FontSize → Prop
  | none : SizeWritten none defaultSize
  | points {cs : List Char} {x : Binary32} (size : IsSize cs x) : SizeWritten (some cs) (.points x)

/-- The only special characters of a name are hyphens. -/
def IsPlain (name : List Char) : Prop := ∀ c ∈ name, c ≠ '\\' ∧ c ≠ ',' ∧ c ≠ ':'

instance (name : List Char) : Decidable (IsPlain name) :=
  List.decidableBAll (fun c => c ≠ '\\' ∧ c ≠ ',' ∧ c ≠ ':') name

/-- **Nothing is mistaken for something else**: the names have hyphens as their only special
characters, without a size no size stands behind the last one, and a size has none. -/
structure Unmistaken (names : List String) (size : Option (List Char)) : Prop where
  plain : ∀ name ∈ names, IsPlain name.toList
  unsized : size = none → ∀ before after x,
    listed names = before ++ '-' :: after → '-' ∉ after → ¬ IsSize after x
  sized : ∀ cs ∈ size, '-' ∉ cs

theorem toList_written (names : List String) (size : Option (List Char)) :
    (written names size).toList = escaped names ++ size.elim [] ('-' :: ·) :=
  String.toList_ofList

/-! ### Escaped names -/

section Escaped
variable {name : List Char} {c : Char}

theorem escape_cons (c : Char) (name : List Char) :
    escape (c :: name) = (if c ∈ special then ['\\', c] else [c]) ++ escape name := rfl

theorem mem_of_mem_escape (h : c ∈ escape name) : c = '\\' ∨ c ∈ name := by
  obtain ⟨d, hd, hc⟩ := List.mem_flatMap.mp h
  split_ifs at hc
  · rcases List.mem_cons.mp hc with rfl | hc
    · exact .inl rfl
    · exact .inr (List.mem_singleton.mp hc ▸ hd)
  · exact .inr (List.mem_singleton.mp hc ▸ hd)

/-- Dropping the backslashes undoes the escapes of a name without any. -/
theorem filter_escape (h : '\\' ∉ name) : (escape name).filter (· != '\\') = name := by
  induction name with
  | nil => rfl
  | cons c name ih =>
    rw [List.mem_cons, not_or] at h
    have hc : (c != '\\') = true := by simpa using Ne.symm h.1
    rw [escape_cons, List.filter_append, ih h.2]
    split_ifs <;> simp [hc]

theorem isTrimmed_escape (h : IsTrimmed name) : IsTrimmed (escape name) := by
  constructor
  · cases name with
    | nil => exact h.1
    | cons c name =>
      rw [escape_cons]
      split_ifs
      · exact show isBlank '\\' = false by decide
      · exact h.1
  · rcases List.eq_nil_or_concat name with rfl | ⟨name, c, rfl⟩
    · exact h.2
    · have hlast := h.2
      rw [List.concat_eq_append, List.getLast?_append] at hlast
      have hescape : (escape (name.concat c)).getLast? = some c := by
        rw [List.concat_eq_append, escape, List.flatMap_append, List.flatMap_singleton,
          List.getLast?_append]
        split_ifs <;> rfl
      rw [hescape]
      exact hlast

theorem count_escape (hc : c ≠ '\\') : (escape name).count c = name.count c := by
  induction name with
  | nil => rfl
  | cons d name ih =>
    rw [escape_cons, List.count_append, ih]
    split_ifs
    · simp [List.count_cons, hc.symm, Nat.add_comm]
    · simp [List.count_cons, Nat.add_comm]

theorem familyOf_escape {name : String} (h : IsTrimmed name.toList) (hname : '\\' ∉ name.toList) :
    familyOf (escape name.toList) = name := by
  rw [familyOf, (isTrimmed_escape h).trim_eq, filter_escape hname, String.ofList_toList]

end Escaped

/-- The list of escaped names has their characters, commas and backslashes apart. -/
theorem count_escaped {c : Char} (hcomma : c ≠ ',') (hbackslash : c ≠ '\\') (names : List String) :
    (escaped names).count c = (names.map (·.toList.count c)).sum := by
  rw [escaped, count_intercalate hcomma, List.map_map]
  exact congrArg List.sum (List.map_congr_left fun _ _ => count_escape hbackslash)

theorem familiesOf_escaped {names : List String} (hne : names ≠ [])
    (hnames : ∀ name ∈ names, IsName name) (hplain : ∀ name ∈ names, IsPlain name.toList) :
    familiesOf (escaped names) = names := by
  have hitems : ∀ item ∈ names.map (escape ·.toList), ',' ∉ item := by
    rintro _ hitem hc
    obtain ⟨name, hname, rfl⟩ := List.mem_map.mp hitem
    rcases mem_of_mem_escape hc with hc | hc
    · exact absurd hc (by decide)
    · exact (hplain name hname _ hc).2.1 rfl
  have hfamilies : (names.map (escape ·.toList)).map familyOf = names := by
    rw [List.map_map]
    refine (List.map_congr_left fun name hname => ?_).trans (List.map_id names)
    exact familyOf_escape (hnames name hname).2 fun hc => (hplain name hname _ hc).1 rfl
  rw [escaped, familiesOf_intercalate (by simpa using hne) hitems, hfamilies, List.filter_eq_self]
  exact fun name hname => bne_iff_ne.mpr (hnames name hname).1

/-! ### Hyphens -/

/-- Puts a backslash in front of a hyphen. -/
def hyphenate (c : Char) : List Char := if c = '-' then ['\\', c] else [c]

theorem flatMap_hyphenate_eq {cs : List Char} (h : '-' ∉ cs) : cs.flatMap hyphenate = cs := by
  induction cs with
  | nil => rfl
  | cons c cs ih =>
    rw [List.mem_cons, not_or] at h
    rw [List.flatMap_cons, ih h.2, hyphenate, if_neg (Ne.symm h.1)]
    rfl

theorem flatMap_intercalate {f : Char → List Char} (hf : f ',' = [',']) (items : List (List Char)) :
    ([','].intercalate items).flatMap f = [','].intercalate (items.map (·.flatMap f)) := by
  induction items with
  | nil => rfl
  | cons item items ih =>
    cases items with
    | nil => simp
    | cons next items =>
      rw [List.intercalate_cons_cons, List.flatMap_append, List.flatMap_append, ih,
        List.flatMap_singleton, hf]
      exact List.intercalate_cons_cons.symm

/-- Of names whose only special characters are hyphens, these alone are escaped. -/
theorem escaped_eq {names : List String} (hplain : ∀ name ∈ names, IsPlain name.toList) :
    escaped names = (listed names).flatMap hyphenate := by
  rw [escaped, listed, flatMap_intercalate rfl, List.map_map]
  refine congrArg _ (List.map_congr_left fun name hname => ?_)
  refine List.flatMap_congr fun c hc => ?_
  obtain ⟨hbackslash, hcomma, hcolon⟩ := hplain name hname c hc
  simp [hyphenate, special, hbackslash, hcomma, hcolon]

/-- What follows the last hyphen is not changed by the escapes. -/
theorem flatMap_hyphenate_append {before after : List Char} (h : '-' ∉ after) :
    (before ++ '-' :: after).flatMap hyphenate =
      (before.flatMap hyphenate ++ ['\\']) ++ '-' :: after := by
  rw [List.flatMap_append, List.flatMap_cons, flatMap_hyphenate_eq h, hyphenate, if_pos rfl]
  simp

/-- Without a size in the text, and none behind the last hyphen, all of it is families. -/
theorem splitSize_escaped {names : List String} (hplain : ∀ name ∈ names, IsPlain name.toList)
    (h : ∀ before after x, listed names = before ++ '-' :: after → '-' ∉ after →
      ¬ IsSize after x) :
    splitSize (escaped names) = (escaped names, defaultSize) := by
  refine splitSize_of_unsized fun families size x hhead hsize hx => ?_
  rw [escaped_eq hplain] at hhead
  cases hcut : cutLast? '-' (listed names) with
  | none =>
    rw [flatMap_hyphenate_eq (cutLast?_eq_none_iff.mp hcut)] at hhead
    exact h families size x hhead hsize hx
  | some parts =>
    obtain ⟨before, after⟩ := parts
    obtain ⟨hlisted, hafter⟩ := cutLast?_eq_some_iff.mp hcut
    -- There is one last hyphen only, so the size is what follows it in the names.
    rw [hlisted, flatMap_hyphenate_append hafter] at hhead
    obtain ⟨-, rfl⟩ := eq_of_last_cut hhead hafter hsize
    exact h before after x hlisted hafter hx

/-! ### Reading the names back -/

variable {names : List String} {size : Option (List Char)} {x : FontSize}

theorem colon_notMem_written (hplain : ∀ name ∈ names, IsPlain name.toList)
    (hsize : SizeWritten size x) : ':' ∉ (written names size).toList := by
  have hnames : ':' ∉ escaped names := by
    rw [← List.count_eq_zero, count_escaped (by decide) (by decide)]
    refine List.sum_eq_zero fun n hn => ?_
    obtain ⟨name, hname, rfl⟩ := List.mem_map.mp hn
    exact List.count_eq_zero.mpr fun hc => (hplain name hname _ hc).2.2 rfl
  rw [toList_written, List.mem_append, not_or]
  refine ⟨hnames, ?_⟩
  cases hsize with
  | none => exact List.not_mem_nil
  | points hx =>
    rw [Option.elim_some, List.mem_cons, not_or]
    exact ⟨by decide, hx.colon_notMem⟩

/-- **What is not mistaken is read back.** -/
theorem Unmistaken.parse_eq (h : Unmistaken names size) (hne : names ≠ [])
    (hnames : ∀ name ∈ names, IsName name) (hsize : SizeWritten size x) :
    parse (written names size) = ⟨written names size, names, x, none⟩ := by
  have hfamilies := familiesOf_escaped hne hnames h.plain
  have hsplit : splitSize (written names size).toList = (escaped names, x) := by
    rw [toList_written]
    cases hsize with
    | none => rw [Option.elim_none, List.append_nil, splitSize_escaped h.plain (h.unsized rfl)]
    | points hx => exact splitSize_of_size (h.sized _ rfl) hx
  rw [parse_of_colon_notMem (colon_notMem_written h.plain hsize), ofHead, hsplit]
  simp only [hfamilies]

/-- **What is read back is not mistaken.** The families have all hyphens of their part of the text, so
the part is that of the names and no hyphen of it has been taken for that of a size. -/
theorem unmistaken_of_families (hsize : SizeWritten size x)
    (h : (parse (written names size)).families = names) : Unmistaken names size := by
  have hplain : ∀ name ∈ names, IsPlain name.toList :=
    fun name hname c hc => ne_of_mem_families (h.symm ▸ hname) hc
  rw [parse_of_colon_notMem (colon_notMem_written hplain hsize), families_ofHead] at h
  have hhyphens := sum_count_familiesOf (c := '-') (by decide) (by decide) (by decide)
    (splitSize (written names size).toList).1
  rw [h, ← count_escaped (by decide) (by decide), toList_written] at hhyphens
  refine ⟨hplain, ?_, ?_⟩
  · rintro rfl before after x hlisted hafter hx
    rw [Option.elim_none, List.append_nil, escaped_eq hplain, hlisted,
      flatMap_hyphenate_append hafter, splitSize_of_size hafter hx] at hhyphens
    simp at hhyphens
  · rintro cs rfl hcs
    rw [← List.count_pos_iff] at hcs
    rw [Option.elim_some] at hhyphens
    rcases splitSize_cases (escaped names ++ '-' :: cs) with
      ⟨families, size, y, hhead, hlast, -, hsplit⟩ | ⟨-, hsplit⟩
    · have hcount := congrArg (List.count '-') hhead
      simp only [List.count_append, List.count_cons_self] at hcount
      rw [← List.count_eq_zero] at hlast
      rw [hsplit] at hhyphens
      change List.count '-' _ = List.count '-' families at hhyphens
      omega
    · rw [hsplit, List.count_append, List.count_cons_self] at hhyphens
      omega

/-- **Written names are read back iff nothing in them is mistaken**, and then so is the size. -/
theorem escaped_families_iff (names : List String) (hne : names ≠ [])
    (hnames : ∀ name ∈ names, IsName name) (size : Option (List Char)) (x : FontSize)
    (hsize : SizeWritten size x) :
    ((parse (written names size)).families = names ↔ Unmistaken names size) ∧
    (Unmistaken names size →
      parse (written names size) = ⟨written names size, names, x, none⟩) := by
  have hread : Unmistaken names size →
      parse (written names size) = ⟨written names size, names, x, none⟩ :=
    fun h => h.parse_eq hne hnames hsize
  exact ⟨⟨unmistaken_of_families hsize, fun h => by rw [hread h]⟩, hread⟩

/-- Hyphens in names, with a size behind them and without one. -/
theorem escaped_families_iff_hyphens :
    parse "Noto\\-Sans 7,x\\-height-7.5" =
      ⟨"Noto\\-Sans 7,x\\-height-7.5", ["Noto-Sans 7", "x-height"],
        .points (.ofRatio false 15 2), none⟩ ∧
    (parse "a\\-5").families ≠ ["a-5"] := by
  have hnames : ∀ name ∈ ["Noto-Sans 7", "x-height"], IsName name := by decide +kernel
  have hsize : IsSize ['7', '.', '5'] (.ofRatio false 15 2) := by decide +kernel
  constructor
  · refine (escaped_families_iff ["Noto-Sans 7", "x-height"] (by decide) hnames (some ['7', '.', '5'])
      _ (.points hsize)).2 ⟨by decide +kernel, nofun, ?_⟩
    rintro _ ⟨⟩
    decide
  · intro h
    have hiff := (escaped_families_iff ["a-5"] (by decide) (by decide +kernel) none _ .none).1
    exact (hiff.mp h).unsized rfl ['a'] ['5'] (.ofInt 5) (by decide +kernel) (by decide)
      (by decide +kernel)

/-- **Escapes come too late**: an escaped comma and an escaped colon separate, an escaped hyphen is
taken for that of a size, and an escaped backslash is dropped. -/
theorem escapes_come_late :
    (∀ name ∈ ["a,b", "a:b", "a-5", "a\\b"], IsName name) ∧
    (parse (written ["a,b"] none)).families = ["a", "b"] ∧
    (parse (written ["a:b"] none)).families = ["a"] ∧
    (parse (written ["a-5"] none)).families = ["a"] ∧
    (parse (written ["a-5"] none)).size = .points (.ofInt 5) ∧
    (parse (written ["a\\b"] none)).families = ["ab"] := by
  decide +kernel

end WmConfig.FontDescriptor
