import WmConfig.Proofs.Settings.Strict

/-! # Strict and lenient reading agree

Where the lists are arrays of tables, lenient reading reports nothing just when strict reading
succeeds with every range kept and no title is a date form, and then the two give the same settings
(`lenient_agrees_with_strict`). -/

namespace WmConfig.Settings

open Toml

/-! ### Lists without reports -/

/-- No title of an entry is a date form. -/
def NoDateTitle (root : Table) : Prop :=
  ∀ l : ListSection, l.titled = true → ∀ t, .table t ∈ l.items root →
    ∀ d, Table.get? t "title" ≠ some (.datetime d)

namespace ListSection

variable {root : Table}

/-- A title fits if it is a text or a date form. -/
theorem fits_title_cases (l : ListSection) (htitled : l.titled = true) :
    ∃ f ∈ l.schema, f.key = "title" ∧
      ∀ v, f.fits v = true → (∃ s, v = .string s) ∨ ∃ d, v = .datetime d := by
  have htext : ∀ v, (Field.of "title" (text? .asText)).fits v = true →
      (∃ s, v = .string s) ∨ ∃ d, v = .datetime d := by
    intro v
    cases v <;> simp [Field.of, text?]
  cases l with
  | tags => exact ⟨_, List.mem_cons_self, rfl, htext⟩
  | layouts => exact ⟨_, List.mem_cons_self, rfl, htext⟩
  | rules => cases htitled
  | keys => cases htitled

/-- What lenient reading asks of an entry beyond strict reading: a title that is no date form. -/
theorem kept_and_fits_iff (l : ListSection) (t : Table) :
    (keptTable? l.titled (.table t) = some t ∧ ∀ f ∈ l.schema, f.Fits t) ↔
      l.Complete t ∧ (l.titled = true → ∀ d, t.get? "title" ≠ some (.datetime d)) := by
  constructor
  · rintro ⟨hkept, hfits⟩
    refine ⟨⟨(fits_required hkept).1, hfits⟩, fun htitled d hdate => ?_⟩
    obtain ⟨s, hs⟩ := (keptTable?_eq_some_iff.mp hkept).2 htitled
    rw [hs] at hdate
    cases hdate
  · rintro ⟨⟨hreq, hfits⟩, hdate⟩
    refine ⟨keptTable?_eq_some_iff.mpr ⟨rfl, fun htitled => ?_⟩, hfits⟩
    obtain ⟨f, hf, hkey, htext⟩ := l.fits_title_cases htitled
    have htitle := hreq "title" (by rw [required, if_pos htitled]; exact List.mem_singleton_self _)
    obtain ⟨v, hv⟩ := Option.isSome_iff_exists.mp htitle
    rcases htext v (hfits f hf v (hkey ▸ hv)) with ⟨s, rfl⟩ | ⟨d, rfl⟩
    · exact ⟨s, hv⟩
    · exact absurd hv (hdate htitled d)

/-- Items that are tables: all are kept and fit iff all are complete and no title is a date form. -/
theorem warnings_read_eq_nil_iff (honce : (Value.table root).KeysOnce)
    (hlists : ListsOfTables root) (l : ListSection) :
    (l.read root).warnings = [] ↔ (Field.of l.key l.strict?).Fits (tableOf root l.name) ∧
      (l.titled = true → ∀ t, .table t ∈ l.items root →
        ∀ d, Table.get? t "title" ≠ some (.datetime d)) := by
  rw [warnings_read_eq_nil honce, fits_iff hlists]
  constructor
  · intro h
    have hall : ∀ t, .table t ∈ l.items root →
        l.Complete t ∧ (l.titled = true → ∀ d, Table.get? t "title" ≠ some (.datetime d)) := by
      intro t ht
      obtain ⟨t', hkept, hfits⟩ := h _ ht
      obtain rfl := Value.table.inj (keptTable?_eq_some_iff.mp hkept).1
      exact (l.kept_and_fits_iff _).mp ⟨hkept, hfits⟩
    refine ⟨fun item hitem => ?_, fun htitled t ht => (hall t ht).2 htitled⟩
    obtain ⟨t, hkept, -⟩ := h item hitem
    obtain ⟨rfl, -⟩ := keptTable?_eq_some_iff.mp hkept
    exact ⟨t, rfl, (hall t hitem).1⟩
  · rintro ⟨hcomplete, hdate⟩ item hitem
    obtain ⟨t, rfl, ht⟩ := hcomplete item hitem
    exact ⟨t, (l.kept_and_fits_iff t).mpr ⟨ht, fun htitled => hdate htitled t hitem⟩⟩

/-- A list without reports holds the same entries, read as a whole or entry by entry. -/
theorem listed_eq_fieldOr (honce : (Value.table root).KeysOnce) (hlists : ListsOfTables root)
    (l : ListSection) (hclean : (l.read root).warnings = []) :
    l.listed (sections root).value = fieldOr (tableOf root l.name) l.key l.strict? [] := by
  rw [listed_sections honce,
    fieldOr_list hlists l ((l.warnings_read_eq_nil_iff honce hlists).mp hclean).1]
  refine List.filterMap_congr fun item hitem => ?_
  obtain ⟨t, hkept, -⟩ := (warnings_read_eq_nil honce l).mp hclean item hitem
  obtain ⟨rfl, -⟩ := keptTable?_eq_some_iff.mp hkept
  rw [hkept]
  rfl

end ListSection

/-! ### What is reported -/

theorem warnings_sectionTable_eq_nil {root : Table} {name : String} :
    (sectionTable root name).warnings = [] ↔ IsSection root name := by
  unfold sectionTable IsSection
  cases root.get? name with
  | none => simp
  | some v => cases v <;> simp

/-- A section is read without a report iff its fields fit, the lists apart. -/
theorem warnings_scalars_eq_nil {α : Type} {decode? : Table → Option α} {fields : List Field}
    {best : Table → α} {default : α} (R : Fieldwise decode? [] fields best) {root : Table}
    (honce : (Value.table root).KeysOnce) (name : String) (lists : List String) :
    (scalars decode? default name lists (sectionTable root name).value).warnings = [] ↔
      ∀ f ∈ fields, f.key ∉ lists → f.Fits (tableOf root name) := by
  rw [value_sectionTable, tableOf]
  cases ht : sectionAt? root name with
  | none => exact iff_of_true rfl fun f _ _ v hv => by cases hv
  | some t =>
    have hnodup := nodup_section honce ht
    have hkept := nodup_withoutLists hnodup lists
    have hfits : ∀ f : Field, f.Fits (withoutLists lists t) ↔ f.key ∉ lists → f.Fits t := by
      intro f
      unfold Field.Fits
      rw [get?_withoutLists hnodup]
      split_ifs with hkey <;> simp [hkey]
    unfold scalars
    rw [Reported.warnings_bind, R.lenient_value hkept (by simp) (by simp) name]
    simp only [Reported.warnings_pure, List.append_nil, Option.getD_some,
      R.warnings_lenient_eq_nil hkept (by simp) (by simp) name, hfits]

/-- The fields of all sections fit, the lists apart. -/
structure ScalarsFit (root : Table) : Prop where
  general : ∀ f ∈ General.schema .asText, f.Fits (tableOf root "general")
  colors : ∀ f ∈ colorsSchema .asText, f.Fits (tableOf root "colors")
  statusbar : ∀ f ∈ Statusbar.schema .asText, f.Fits (tableOf root "statusbar")
  layouts : ∀ f ∈ Layouts.schema .asText, f.key ∉ ["layout"] → f.Fits (tableOf root "layouts")
  keys : ∀ f ∈ Keys.schema .asText, f.key ∉ ["key"] → f.Fits (tableOf root "keys")

theorem warnings_sections_eq_nil {root : Table} (honce : (Value.table root).KeysOnce) :
    (sections root).warnings = [] ↔ (∀ name ∈ sectionNames, IsSection root name) ∧
      ScalarsFit root ∧ ∀ l : ListSection, (l.read root).warnings = [] := by
  have hread : (∀ l : ListSection, (l.read root).warnings = []) ↔
      (ListSection.tags.read root).warnings = [] ∧ (ListSection.layouts.read root).warnings = [] ∧
        (ListSection.rules.read root).warnings = [] ∧ (ListSection.keys.read root).warnings = [] :=
    ⟨fun h => ⟨h _, h _, h _, h _⟩, fun ⟨h₁, h₂, h₃, h₄⟩ l => by cases l <;> assumption⟩
  have hscalars : ScalarsFit root ↔ _ ∧ _ ∧ _ ∧ _ ∧ _ :=
    ⟨fun h => ⟨h.general, h.colors, h.statusbar, h.layouts, h.keys⟩,
      fun ⟨h₁, h₂, h₃, h₄, h₅⟩ => ⟨h₁, h₂, h₃, h₄, h₅⟩⟩
  have hnone {fields : List Field} {name : String} :
      (∀ f ∈ fields, f.key ∉ ([] : List String) → f.Fits (tableOf root name)) ↔
        ∀ f ∈ fields, f.Fits (tableOf root name) := by simp
  simp only [sections, Reported.warnings_bind, Reported.warnings_pure, List.append_eq_nil_iff,
    warnings_sectionTable_eq_nil, warnings_scalars_eq_nil (General.fieldwise .asText) honce,
    warnings_scalars_eq_nil (fieldwise_colors .asText) honce,
    warnings_scalars_eq_nil (Statusbar.fieldwise .asText) honce,
    warnings_scalars_eq_nil (Layouts.fieldwise .asText) honce,
    warnings_scalars_eq_nil (Keys.fieldwise .asText) honce, hnone, hscalars, hread, sectionNames,
    List.forall_mem_cons, and_true]
  constructor
  · rintro ⟨i₁, i₂, i₃, i₄, i₅, s₁, i₆, s₂, i₇, s₃, l₁, l₂, s₄, l₃, l₄, s₅⟩
    exact ⟨⟨i₅, i₆, i₇, i₁, i₂, i₃, i₄, by simp⟩, ⟨s₁, s₂, s₃, s₄, s₅⟩, l₁, l₂, l₃, l₄⟩
  · rintro ⟨⟨i₅, i₆, i₇, i₁, i₂, i₃, i₄, -⟩, ⟨s₁, s₂, s₃, s₄, s₅⟩, l₁, l₂, l₃, l₄⟩
    exact ⟨i₁, i₂, i₃, i₄, i₅, s₁, i₆, s₂, i₇, s₃, l₁, l₂, s₄, l₃, l₄, s₅⟩

/-! ### The ranges -/

theorem warnings_inRange_eq_nil {s : Settings} : (inRange s).warnings = [] ↔ InRange s := by
  have hopacity : s.general.opacityUnfocused = clampOpacity s.general.opacityUnfocused ↔
      0 ≤ s.general.opacityUnfocused ∧ s.general.opacityUnfocused ≤ 100 := by
    unfold clampOpacity maxOpacity
    omega
  have hshare : isShare s.layouts.mwfact = true ↔
      (Binary.zero false).lt s.layouts.mwfact = true ∧ s.layouts.mwfact.le (.ofInt 1) = true := by
    rw [isShare, Bool.and_eq_true]
  unfold inRange
  rw [List.append_eq_nil_iff]
  constructor
  · rintro ⟨h₁, h₂⟩
    obtain ⟨hnonneg, hle⟩ := hopacity.mp (by by_contra h; rw [if_neg h] at h₁; cases h₁)
    obtain ⟨hpos, hone⟩ := hshare.mp (by by_contra h; rw [if_neg h] at h₂; cases h₂)
    exact ⟨hnonneg, hle, hpos, hone⟩
  · intro h
    exact ⟨if_pos (hopacity.mpr ⟨h.opacity_nonneg, h.opacity_le⟩),
      if_pos (hshare.mpr ⟨h.mwfact_pos, h.mwfact_le⟩)⟩

/-- What is in its range stays as it is. -/
theorem value_inRange {s : Settings} (h : InRange s) : (inRange s).value = s := by
  have hopacity : clampOpacity s.general.opacityUnfocused = s.general.opacityUnfocused := by
    have := h.opacity_nonneg
    have := h.opacity_le
    unfold clampOpacity maxOpacity
    omega
  have hshare : isShare s.layouts.mwfact = true := by
    rw [isShare, h.mwfact_pos, h.mwfact_le]
    rfl
  unfold inRange
  simp only [hopacity, hshare, if_true]

theorem inRange_default : InRange {} := by
  constructor <;> decide +kernel

/-! ### Documents -/

/-- All fields fit if the list does and the fields beside it do. -/
theorem fits_of_list {fields : List Field} (hkeys : (fields.map Field.key).Nodup) {list : Field}
    (hlist : list ∈ fields) {t : Table} (hfits : list.Fits t)
    (hothers : ∀ f ∈ fields, f.key ∉ [list.key] → f.Fits t) : ∀ f ∈ fields, f.Fits t := by
  intro f hf
  by_cases hkey : f.key ∈ [list.key]
  · rwa [List.inj_on_of_nodup_map hkeys hf hlist (List.mem_singleton.mp hkey)]
  · exact hothers f hf hkey

section Documents
variable {root : Table} (honce : (Value.table root).KeysOnce) (hlists : ListsOfTables root)
include honce hlists

/-- Reading the sections reports nothing iff strict reading succeeds and no title is a date form. -/
theorem warnings_sections_eq_nil_iff : (sections root).warnings = [] ↔
    (∃ s, strict? root = some s) ∧ NoDateTitle root := by
  have hlist := fun l : ListSection => l.warnings_read_eq_nil_iff honce hlists
  simp only [warnings_sections_eq_nil honce, hlist, strict?_eq_some_iff]
  constructor
  · rintro ⟨hsections, h, hl⟩
    have hmem : Field.of "key" (keys? .asText) ∈ Keys.schema .asText :=
      List.mem_cons_of_mem _ List.mem_cons_self
    refine ⟨⟨_, hsections, ⟨h.general, h.colors, h.statusbar, ?_, ?_, ?_, ?_⟩, rfl⟩,
      fun l htitled => (hl l).2 htitled⟩
    · exact List.forall_mem_singleton.mpr (hl .tags).1
    · exact fits_of_list (Layouts.fieldwise .asText).keys List.mem_cons_self (hl .layouts).1
        h.layouts
    · exact List.forall_mem_singleton.mpr (hl .rules).1
    · exact fits_of_list (Keys.fieldwise .asText).keys hmem (hl .keys).1 h.keys
  · rintro ⟨⟨_, hsections, h, -⟩, hdate⟩
    refine ⟨hsections, ⟨h.general, h.colors, h.statusbar, fun f hf _ => h.layouts f hf,
      fun f hf _ => h.keys f hf⟩, fun l => ⟨?_, hdate l⟩⟩
    cases l with
    | tags => exact h.tags _ (List.mem_singleton_self _)
    | layouts => exact h.layouts _ List.mem_cons_self
    | rules => exact h.rules _ (List.mem_singleton_self _)
    | keys => exact h.keys _ (List.mem_cons_of_mem _ List.mem_cons_self)

/-- Settings read without a report are the ones that strict reading gives. -/
theorem value_sections_eq_bestOf (hclean : ∀ l : ListSection, (l.read root).warnings = []) :
    (sections root).value = bestOf root := by
  have hlist := fun l => ListSection.listed_eq_fieldOr honce hlists l (hclean l)
  have hwithout : ∀ t : Table, withoutLists [] t = t := fun t => by simp [withoutLists]
  have hfield {α : Type} (name key : String) (lists : List String) (hkey : key ∉ lists)
      (read? : Value → Option α) (default : α) :
      fieldOr (withoutLists lists (tableOf root name)) key read? default =
        fieldOr (tableOf root name) key read? default := by
    rw [fieldOr_section honce hkey, fieldAt, ← ListSection.get?_tableOf]
    rfl
  have hlayouts : (sections root).value.layouts =
      Layouts.best .asText (tableOf root "layouts") := by
    have hlayout : (sections root).value.layouts.layout =
        fieldOr (tableOf root "layouts") "layout" (layouts? .asText) [] := hlist .layouts
    rw [layouts_sections honce, hlayout, Layouts.best, Layouts.best]
    simp only [hfield "layouts" "mwfact" ["layout"] (by simp),
      hfield "layouts" "nmaster" ["layout"] (by simp), hfield "layouts" "ncol" ["layout"] (by simp)]
  have hkeys : (sections root).value.keys = Keys.best .asText (tableOf root "keys") := by
    have hkey : (sections root).value.keys.key =
        fieldOr (tableOf root "keys") "key" (keys? .asText) [] := hlist .keys
    rw [keys_sections honce, hkey, Keys.best, Keys.best]
    simp only [hfield "keys" "modkey" ["key"] (by simp)]
  calc (sections root).value
      = { general := (sections root).value.general, colors := (sections root).value.colors
          statusbar := (sections root).value.statusbar
          tags := ListSection.tags.listed (sections root).value
          layouts := (sections root).value.layouts
          rules := ListSection.rules.listed (sections root).value
          keys := (sections root).value.keys } := rfl
    _ = bestOf root := by
        rw [general_sections honce, colors_sections honce, statusbar_sections honce, hlayouts,
          hkeys, hlist .tags, hlist .rules, hwithout, hwithout, hwithout]
        rfl

/-- A document that strict reading accepts, with everything in range, gives just that. -/
theorem ofTable_eq_of_strict {s : Settings} (hs : strict? root = some s) (hrange : InRange s)
    (hdate : NoDateTitle root) : ofTable root = ⟨s, []⟩ := by
  have hwarnings := (warnings_sections_eq_nil_iff honce hlists).mpr ⟨⟨s, hs⟩, hdate⟩
  have hvalue : (sections root).value = s := by
    rw [value_sections_eq_bestOf honce hlists ((warnings_sections_eq_nil honce).mp hwarnings).2.2]
    exact (strict?_eq_some_iff.mp hs).2.2.symm
  have hsections : sections root = ⟨s, []⟩ := by
    rw [← hvalue, ← hwarnings]
  rw [ofTable, hsections]
  change (⟨(inRange s).value, [] ++ (inRange s).warnings⟩ : Reported Settings) = _
  rw [value_inRange hrange, warnings_inRange_eq_nil.mpr hrange, List.nil_append]

theorem warnings_ofTable_eq_nil_iff : (ofTable root).warnings = [] ↔
    ∃ s, strict? root = some s ∧ InRange s ∧ NoDateTitle root := by
  constructor
  · intro h
    rw [ofTable, Reported.warnings_bind, List.append_eq_nil_iff, warnings_inRange_eq_nil] at h
    obtain ⟨⟨s, hs⟩, hdate⟩ := (warnings_sections_eq_nil_iff honce hlists).mp h.1
    have hclean := ((warnings_sections_eq_nil honce).mp h.1).2.2
    have hrange := h.2
    rw [value_sections_eq_bestOf honce hlists hclean, ← (strict?_eq_some_iff.mp hs).2.2] at hrange
    exact ⟨s, hs, hrange, hdate⟩
  · rintro ⟨s, hs, hrange, hdate⟩
    rw [ofTable_eq_of_strict honce hlists hs hrange hdate]

end Documents

/-- **Lenient reading agrees with strict reading.** Where the lists are arrays of tables, a document
is read without a report iff each section can be decoded as a whole, with every range kept and no
date form as a title; and then the settings are the ones so decoded. -/
theorem lenient_agrees_with_strict {text : String} {root : Table} (h : document? text = some root)
    (hlists : ListsOfTables root) :
    ((parse text).warnings = [] ↔ ∃ s, strict? root = some s ∧ InRange s ∧ NoDateTitle root) ∧
      ∀ s, strict? root = some s → InRange s → NoDateTitle root → (parse text).value = s := by
  have honce := keysOnce_of_document h
  rw [parse_of_document h]
  refine ⟨warnings_ofTable_eq_nil_iff honce hlists, fun s hs hrange hdate => ?_⟩
  rw [ofTable_eq_of_strict honce hlists hs hrange hdate]

/-- A document that both readings accept. -/
theorem lenient_agrees_with_strict_tag :
    (parse "[general]\nborder = 2\n[[tags.tag]]\ntitle = 'a'\n").warnings = [] ∧
      (parse "[general]\nborder = 2\n[[tags.tag]]\ntitle = 'a'\n").value =
        { general := { border := 2 }, tags := [{ title := "a" }] } := by
  have h : document? "[general]\nborder = 2\n[[tags.tag]]\ntitle = 'a'\n" =
      some [("general", .table [("border", .integer 2)]),
        ("tags", .table [("tag", .array [.table [("title", .string "a")]])])] := by decide +kernel
  have hlists : ListsOfTables [("general", .table [("border", .integer 2)]),
      ("tags", .table [("tag", .array [.table [("title", .string "a")]])])] := by
    intro l v hv
    cases l with
    | tags => exact ⟨[[("title", .string "a")]], (Option.some.inj hv).symm⟩
    | layouts => cases hv
    | rules => cases hv
    | keys => cases hv
  have hdate : NoDateTitle [("general", .table [("border", .integer 2)]),
      ("tags", .table [("tag", .array [.table [("title", .string "a")]])])] := by
    intro l htitled t ht d
    cases l with
    | tags =>
      obtain rfl := Value.table.inj (List.mem_singleton.mp ht)
      exact fun hd => by cases hd
    | layouts => cases ht
    | rules => cases htitled
    | keys => cases htitled
  have hrange : InRange { general := { border := 2 }, tags := [{ title := "a" }] } :=
    ⟨by decide, by decide, inRange_default.mwfact_pos, inRange_default.mwfact_le⟩
  obtain ⟨hwarnings, hvalue⟩ := lenient_agrees_with_strict h hlists
  exact ⟨hwarnings.mpr ⟨_, rfl, hrange, hdate⟩, hvalue _ rfl hrange hdate⟩

/-- An entry with a date form as title is skipped and reported, although strict reading takes it. -/
theorem date_as_title :
    ∃ root s, document? "[[tags.tag]]\ntitle = 1979-05-27\n" = some root ∧ ListsOfTables root ∧
      strict? root = some s ∧ InRange s ∧
      (parse "[[tags.tag]]\ntitle = 1979-05-27\n").warnings = [.entryUntitled "tags.tag" 0] := by
  have h : document? "[[tags.tag]]\ntitle = 1979-05-27\n" =
      some [("tags", .table [("tag", .array [.table
        [("title", .datetime ⟨some ⟨1979, 5, 27⟩, none, none⟩)]])])] := by decide +kernel
  have hnone : (sections [("tags", .table [("tag", .array [.table
      [("title", .datetime ⟨some ⟨1979, 5, 27⟩, none, none⟩)]])])]).value = {} := rfl
  refine ⟨_, { tags := [{ title := "1979-05-27" }] }, h, fun l v hv => ?_, rfl,
    ⟨by decide, by decide, inRange_default.mwfact_pos, inRange_default.mwfact_le⟩, ?_⟩
  · cases l with
    | tags => exact ⟨[_], (Option.some.inj hv).symm⟩
    | layouts => cases hv
    | rules => cases hv
    | keys => cases hv
  · rw [parse_of_document h, ofTable, Reported.warnings_bind, hnone,
      warnings_inRange_eq_nil.mpr inRange_default]
    rfl

end WmConfig.Settings
