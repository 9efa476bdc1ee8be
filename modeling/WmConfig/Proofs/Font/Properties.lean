import WmConfig.Proofs.Font.Head
import WmConfig.Proofs.Lookup

/-! # The properties of a font descriptor

A property sets the size, sets the style or sets nothing (`Sets`), whatever stands in front of it. So of
any properties put behind a descriptor the last one that sets the size decides the size, the last one
that sets the style decides the style, and what none of them sets stays as it was
(`last_property_wins`). -/

namespace WmConfig.FontDescriptor

/-! ### One property -/

/-- What a property can set. -/
inductive Setting where
  /-- The size. -/
  | size (x : FontSize)
  /-- The style. -/
  | style (t : String)

/-- The descriptor with one thing set and all else as it was. -/
def set (d : FontDescriptor) : Setting → FontDescriptor
  | .size x => { d with size := x }
  | .style t => { d with style := some t }

/-- **What a property sets.** The text in front of the first equals sign says what the text behind it
is for; a number that cannot be read sets nothing. Without an equals sign a property sets the style
that it names in any case. -/
inductive Sets : List Char → Setting → Prop
  | points {value : List Char} {x : Binary32} (number : sizeOf? value = some x) :
      Sets ("size=".toList ++ value) (.size (.points x))
  | pixels {value : List Char} {x : Binary32} (number : sizeOf? value = some x) :
      Sets ("pixelsize=".toList ++ value) (.size (.pixels x))
  | style (value : List Char) :
      Sets ("style=".toList ++ value) (.style (String.ofList (trim value)))
  | word {word : List Char} {lower style : String} (bare : '=' ∉ word)
      (entry : (lower, style) ∈ styleWords)
      (same : (trim word).map Char.toLower = lower.toList) : Sets word (.style style)

section Property
variable {p : List Char} {s : Setting}

theorem nodup_styleWords : (styleWords.map Prod.fst).Nodup := by decide

theorem styleOf?_eq_some_iff {style : String} :
    styleOf? p = some style ↔
      ∃ lower, (lower, style) ∈ styleWords ∧ (trim p).map Char.toLower = lower.toList := by
  rw [styleOf?, lookup_eq_some_iff nodup_styleWords]
  constructor
  · exact fun h => ⟨_, h, String.toList_ofList.symm⟩
  · rintro ⟨lower, h, hlower⟩
    rwa [hlower, String.ofList_toList]

/-- A property does what its text sets. -/
theorem Sets.applyProperty (h : Sets p s) (d : FontDescriptor) : d.applyProperty p = d.set s := by
  cases h with
  | @points value x number =>
    have hcut : cutFirst? '=' ("size=".toList ++ value) = some ("size".toList, value) :=
      cutFirst?_eq_some_iff.mpr ⟨rfl, by decide⟩
    simp only [FontDescriptor.applyProperty, hcut, if_true, number]
    rfl
  | @pixels value x number =>
    have hcut : cutFirst? '=' ("pixelsize=".toList ++ value) = some ("pixelsize".toList, value) :=
      cutFirst?_eq_some_iff.mpr ⟨rfl, by decide⟩
    have hkey : "pixelsize".toList ≠ "size".toList := by decide
    simp only [FontDescriptor.applyProperty, hcut, if_neg hkey, if_true, number]
    rfl
  | style value =>
    have hcut : cutFirst? '=' ("style=".toList ++ value) = some ("style".toList, value) :=
      cutFirst?_eq_some_iff.mpr ⟨rfl, by decide⟩
    have hsize : "style".toList ≠ "size".toList := by decide
    have hpixels : "style".toList ≠ "pixelsize".toList := by decide
    simp only [FontDescriptor.applyProperty, hcut, if_neg hsize, if_neg hpixels, if_true]
    rfl
  | @word p lower style bare entry same =>
    have hstyle : styleOf? p = some style := styleOf?_eq_some_iff.mpr ⟨lower, entry, same⟩
    simp only [FontDescriptor.applyProperty, cutFirst?_eq_none_iff.mpr bare, hstyle]
    rfl

/-- A property with which different sizes stay different sets none. -/
theorem not_sets_size (d d' : FontDescriptor)
    (h : (d.applyProperty p).size ≠ (d'.applyProperty p).size) (x : FontSize) :
    ¬ Sets p (.size x) := fun hx => h (by rw [hx.applyProperty, hx.applyProperty]; rfl)

/-- A property that sets nothing changes nothing. -/
theorem applyProperty_of_not_sets (h : ∀ s, ¬ Sets p s) (d : FontDescriptor) :
    d.applyProperty p = d := by
  rw [applyProperty]
  cases hcut : cutFirst? '=' p with
  | none =>
    cases hstyle : styleOf? p with
    | none => rfl
    | some style =>
      obtain ⟨lower, entry, same⟩ := styleOf?_eq_some_iff.mp hstyle
      exact absurd (.word (cutFirst?_eq_none_iff.mp hcut) entry same) (h _)
  | some parts =>
    obtain ⟨key, value⟩ := parts
    obtain ⟨rfl, -⟩ := cutFirst?_eq_some_iff.mp hcut
    simp only
    split_ifs with hsize hpixels hstyle
    · subst hsize
      cases hnumber : sizeOf? value with
      | none => rfl
      | some x => exact absurd (.points hnumber) (h _)
    · subst hpixels
      cases hnumber : sizeOf? value with
      | none => rfl
      | some x => exact absurd (.pixels hnumber) (h _)
    · subst hstyle
      exact absurd (.style value) (h _)
    · rfl

/-- A property sets one thing or nothing, the same for all descriptors. -/
theorem applyProperty_cases (p : List Char) :
    (∃ s, Sets p s ∧ ∀ d : FontDescriptor, d.applyProperty p = d.set s) ∨
      (∀ s, ¬ Sets p s) ∧ ∀ d : FontDescriptor, d.applyProperty p = d := by
  by_cases h : ∃ s, Sets p s
  · obtain ⟨s, hs⟩ := h
    exact .inl ⟨s, hs, hs.applyProperty⟩
  · have hnone : ∀ s, ¬ Sets p s := fun s hs => h ⟨s, hs⟩
    exact .inr ⟨hnone, applyProperty_of_not_sets hnone⟩

/-- Properties do not look at the text that the descriptor was read from. -/
theorem applyProperty_raw (d : FontDescriptor) (raw : String) (p : List Char) :
    applyProperty { d with raw := raw } p = { d.applyProperty p with raw := raw } := by
  rcases applyProperty_cases p with ⟨s, -, hs⟩ | ⟨-, hnone⟩
  · rw [hs, hs]
    cases s <;> rfl
  · rw [hnone, hnone]

end Property

/-! ### Properties one after the other -/

/-- None of the properties sets what `f` is about. -/
def SetNone {α : Type} (f : α → Setting) (properties : List (List Char)) : Prop :=
  ∀ p ∈ properties, ∀ a, ¬ Sets p (f a)

/-- Of the properties that set what `f` is about, the last one sets it to `a`. -/
def SetLast {α : Type} (f : α → Setting) (properties : List (List Char)) (a : α) : Prop :=
  ∃ before p after, properties = before ++ p :: after ∧ Sets p (f a) ∧ SetNone f after

section Runs
variable {α β : Type} {f : α → Setting} {view : FontDescriptor → β} {properties : List (List Char)}

/-- What no property sets stays as it was. -/
theorem view_foldl_of_setNone (hview : ∀ d s, (∀ a, s ≠ f a) → view (d.set s) = view d)
    (h : SetNone f properties) (d : FontDescriptor) :
    view (properties.foldl applyProperty d) = view d := by
  induction properties generalizing d with
  | nil => rfl
  | cons p properties ih =>
    obtain ⟨hp, hproperties⟩ := List.forall_mem_cons.mp h
    rw [List.foldl_cons, ih hproperties]
    rcases applyProperty_cases p with ⟨s, hs, happly⟩ | ⟨-, hnone⟩
    · rw [happly, hview]
      rintro a rfl
      exact hp a hs
    · rw [hnone]

/-- What is set last is not changed any more. -/
theorem view_foldl_of_setLast (hview : ∀ d s, (∀ a, s ≠ f a) → view (d.set s) = view d)
    {a : α} (h : SetLast f properties a) (d : FontDescriptor) :
    ∃ d' : FontDescriptor, view (properties.foldl applyProperty d) = view (d'.set (f a)) := by
  obtain ⟨before, p, after, rfl, hp, hafter⟩ := h
  refine ⟨before.foldl applyProperty d, ?_⟩
  rw [List.foldl_append, List.foldl_cons, view_foldl_of_setNone hview hafter, hp.applyProperty]

theorem size_set (d : FontDescriptor) (s : Setting) (h : ∀ x, s ≠ .size x) :
    (d.set s).size = d.size := by
  cases s with
  | size x => exact absurd rfl (h x)
  | style t => rfl

theorem style_set (d : FontDescriptor) (s : Setting) (h : ∀ t, s ≠ .style t) :
    (d.set s).style = d.style := by
  cases s with
  | size x => rfl
  | style t => exact absurd rfl (h t)

theorem size_foldl_of_setNone (h : SetNone .size properties) (d : FontDescriptor) :
    (properties.foldl applyProperty d).size = d.size :=
  view_foldl_of_setNone size_set h d

theorem size_foldl_of_setLast {x : FontSize} (h : SetLast .size properties x)
    (d : FontDescriptor) : (properties.foldl applyProperty d).size = x := by
  obtain ⟨d', hd'⟩ := view_foldl_of_setLast size_set h d
  exact hd'

theorem style_foldl_of_setNone (h : SetNone .style properties) (d : FontDescriptor) :
    (properties.foldl applyProperty d).style = d.style :=
  view_foldl_of_setNone style_set h d

theorem style_foldl_of_setLast {t : String} (h : SetLast .style properties t)
    (d : FontDescriptor) : (properties.foldl applyProperty d).style = some t := by
  obtain ⟨d', hd'⟩ := view_foldl_of_setLast style_set h d
  exact hd'

theorem SetLast.not_setNone {a : α} (h : SetLast f properties a) : ¬ SetNone f properties := by
  obtain ⟨before, p, after, rfl, hp, -⟩ := h
  exact fun hnone => hnone p (List.mem_append_right _ List.mem_cons_self) a hp

/-- Either no property sets it, or one of them sets it last. -/
theorem setNone_or_setLast (f : α → Setting) (properties : List (List Char)) :
    SetNone f properties ∨ ∃ a, SetLast f properties a := by
  induction properties with
  | nil => exact .inl fun p hp => absurd hp List.not_mem_nil
  | cons p properties ih =>
    rcases ih with hnone | ⟨a, before, q, after, rfl, hq, hafter⟩
    · by_cases hp : ∃ a, Sets p (f a)
      · obtain ⟨a, ha⟩ := hp
        exact .inr ⟨a, [], p, properties, rfl, ha, hnone⟩
      · exact .inl (List.forall_mem_cons.mpr ⟨fun a ha => hp ⟨a, ha⟩, hnone⟩)
    · exact .inr ⟨a, p :: before, q, after, rfl, hq, hafter⟩

end Runs

/-! ### Descriptors with further properties -/

/-- The text with properties put behind it, each after a colon. -/
def extended (raw : String) (properties : List (List Char)) : String :=
  String.ofList (raw.toList ++ properties.flatMap (':' :: ·))

section Extended
variable {raw : String} {properties : List (List Char)}

theorem foldl_raw (raw : String) (d : FontDescriptor) (properties : List (List Char)) :
    properties.foldl applyProperty { d with raw := raw } =
      { properties.foldl applyProperty d with raw := raw } := by
  induction properties generalizing d with
  | nil => rfl
  | cons p properties ih => rw [List.foldl_cons, List.foldl_cons, applyProperty_raw, ih]

/-- The text is kept as it is. -/
theorem raw_parse (raw : String) : (parse raw).raw = raw := by
  obtain ⟨head, properties, -, hparse⟩ := exists_parse_eq raw
  rw [hparse]
  exact congrArg FontDescriptor.raw (foldl_raw raw (ofHead raw head) properties)

/-- **Further properties** act on what has been read so far. -/
theorem parse_extended (h : ∀ p ∈ properties, ':' ∉ p) :
    parse (extended raw properties) =
      { properties.foldl applyProperty (parse raw) with raw := extended raw properties } := by
  obtain ⟨head, others, hpieces, hparse⟩ := exists_parse_eq raw
  have hextended : (extended raw properties).toList.splitOn ':' = head :: (others ++ properties) := by
    rw [extended, String.toList_ofList, splitOn_append_flatMap h, hpieces, List.cons_append]
  rw [hparse, parse, hextended]
  simp only [List.foldl_append]
  rw [← foldl_raw, ← foldl_raw]
  rfl

/-- Every text is a head with properties behind it. -/
theorem exists_extended (raw : String) : ∃ head properties,
    raw = extended head properties ∧ ':' ∉ head.toList ∧ ∀ p ∈ properties, ':' ∉ p := by
  obtain ⟨head, properties, hpieces⟩ :=
    List.exists_cons_of_ne_nil (List.splitOn_ne_nil ':' raw.toList)
  have hpiece : ∀ piece ∈ head :: properties, ':' ∉ piece := fun piece hpiece =>
    notMem_of_mem_splitOn (hpieces ▸ hpiece)
  obtain ⟨hhead, hproperties⟩ := List.forall_mem_cons.mp hpiece
  have hjoined : ∀ (piece : List Char) (pieces : List (List Char)),
      [':'].intercalate (piece :: pieces) = piece ++ pieces.flatMap (':' :: ·) := by
    intro piece pieces
    induction pieces generalizing piece with
    | nil => simp
    | cons next pieces ih =>
      rw [List.intercalate_cons_cons, ih, List.flatMap_cons]
      simp
  refine ⟨String.ofList head, properties, ?_, by rwa [String.toList_ofList], hproperties⟩
  rw [extended, String.toList_ofList, ← hjoined, ← hpieces, List.intercalate_splitOn,
    String.ofList_toList]

end Extended

/-- **The last property wins.** A property put behind a text sets what its own text says and nothing
else. Behind any number of them the families are those of the text alone; the size is that of the last
property that sets the size, or else that of the text alone; and likewise the style. A text without
properties has the size of its head and no style. -/
theorem last_property_wins (raw : String) :
    (∀ p : List Char, ':' ∉ p →
      (∀ s, Sets p s →
        parse (extended raw [p]) = { (parse raw).set s with raw := extended raw [p] }) ∧
      ((∀ s, ¬ Sets p s) →
        parse (extended raw [p]) = { parse raw with raw := extended raw [p] })) ∧
    (∀ properties : List (List Char), (∀ p ∈ properties, ':' ∉ p) →
      (parse (extended raw properties)).families = (parse raw).families ∧
      (∀ x, SetLast .size properties x → (parse (extended raw properties)).size = x) ∧
      (SetNone .size properties → (parse (extended raw properties)).size = (parse raw).size) ∧
      (∀ t, SetLast .style properties t → (parse (extended raw properties)).style = some t) ∧
      (SetNone .style properties →
        (parse (extended raw properties)).style = (parse raw).style)) ∧
    (':' ∉ raw.toList →
      (parse raw).size = (splitSize raw.toList).2 ∧ (parse raw).style = none) := by
  refine ⟨fun p hp => ?_, fun properties h => ?_, fun h => ?_⟩
  · have hparse : parse (extended raw [p]) = _ := parse_extended (List.forall_mem_singleton.mpr hp)
    refine ⟨fun s hs => ?_, fun hnone => ?_⟩
    · rw [hparse, List.foldl_cons, List.foldl_nil, hs.applyProperty]
    · rw [hparse, List.foldl_cons, List.foldl_nil, applyProperty_of_not_sets hnone]
  · rw [parse_extended h]
    exact ⟨families_foldl properties _, fun x hx => size_foldl_of_setLast hx _,
      fun hnone => size_foldl_of_setNone hnone _, fun t ht => style_foldl_of_setLast ht _,
      fun hnone => style_foldl_of_setNone hnone _⟩
  · rw [parse_of_colon_notMem h]
    exact ⟨rfl, rfl⟩

/-- Sizes and styles set in turn, and a number that cannot be read. -/
theorem last_property_wins_interleaved :
    (parse "mono-9:size=10:style=a=b:pixelsize=7:size=x:ITALIC").families = ["mono"] ∧
    (parse "mono-9:size=10:style=a=b:pixelsize=7:size=x:ITALIC").size = .pixels (.ofInt 7) ∧
    (parse "mono-9:size=10:style=a=b:pixelsize=7:size=x:ITALIC").style = some "Italic" := by
  obtain ⟨hfamilies, hsize, -, hstyle, -⟩ := (last_property_wins "mono-9").2.1
    ["size=10".toList, "style=a=b".toList, "pixelsize=7".toList, "size=x".toList, "ITALIC".toList]
    (by decide)
  have hmono : (parse "mono-9").families = ["mono"] := by decide +kernel
  have hidle : ∀ p ∈ ["size=x".toList, "ITALIC".toList],
      ((parse "a-1").applyProperty p).size ≠ ((parse "a-2").applyProperty p).size := by
    decide +kernel
  refine ⟨hfamilies.trans hmono, hsize _ ?_, hstyle _ ?_⟩
  · exact ⟨["size=10".toList, "style=a=b".toList], _, ["size=x".toList, "ITALIC".toList], rfl,
      .pixels (by decide +kernel), fun p hp => not_sets_size _ _ (hidle p hp)⟩
  · exact ⟨["size=10".toList, "style=a=b".toList, "pixelsize=7".toList, "size=x".toList], _, [], rfl,
      .word (by decide) (.tail _ (.head _)) (by decide), fun p hp => absurd hp List.not_mem_nil⟩

end WmConfig.FontDescriptor
