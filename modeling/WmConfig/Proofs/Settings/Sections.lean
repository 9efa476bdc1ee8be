import Mathlib.Tactic.SplitIfs
import WmConfig.Proofs.Settings.Records

/-! # The fields of the sections

The fields of a section are read one by one: each is what its own value is read as, or its own
default, whatever else the document says. `fields_read_alone` states this for every field of every
section; the lists among the fields are the matter of `Entries`. -/

namespace WmConfig.Settings

open Toml

/-! ### Look-ups in a document -/

/-- The table of a section; nothing if the section is missing or is no table. -/
def sectionAt? (root : Table) (name : String) : Option Table := (root.get? name).bind Value.table?

/-- The value of a field of a section. -/
def valueAt? (root : Table) (name key : String) : Option Value :=
  (sectionAt? root name).bind (Table.get? · key)

/-- What a field of a section is read as, or its default if it is missing or does not fit. -/
def fieldAt {α : Type} (root : Table) (name key : String) (read? : Value → Option α) (default : α) :
    α := ((valueAt? root name key).bind read?).getD default

theorem value_sectionTable (root : Table) (name : String) :
    (sectionTable root name).value = sectionAt? root name := by
  unfold sectionTable sectionAt?
  cases h : root.get? name with
  | none => rfl
  | some v => cases v <;> rfl

theorem sectionAt_eq_some_iff {root t : Table} {name : String} :
    sectionAt? root name = some t ↔ root.get? name = some (.table t) := by
  unfold sectionAt?
  cases h : root.get? name with
  | none => simp
  | some v => cases v <;> simp [Value.table?]

theorem keysOnce_section {root t : Table} {name : String} (h : (Value.table root).KeysOnce)
    (ht : sectionAt? root name = some t) : (Value.table t).KeysOnce := by
  cases h with
  | table keys values =>
    exact values _ ((lookup_eq_some_iff keys).mp (sectionAt_eq_some_iff.mp ht))

theorem nodup_section {root t : Table} {name : String} (h : (Value.table root).KeysOnce)
    (ht : sectionAt? root name = some t) : (t.map Prod.fst).Nodup := by
  cases keysOnce_section h ht with
  | table keys => exact keys

theorem parse_of_document {text : String} {root : Table} (h : document? text = some root) :
    parse text = ofTable root := by
  unfold parse
  rw [show (Toml.parse? text).bind Table.withDates? = some root from h]

theorem parse_of_none {text : String} (h : document? text = none) :
    parse text = ⟨{}, [.malformed]⟩ := by
  unfold parse
  rw [show (Toml.parse? text).bind Table.withDates? = none from h]

/-! ### Reading a section -/

/-- The fields of a table that are no lists. -/
abbrev withoutLists (lists : List String) (t : Table) : Table :=
  t.filter fun e => !lists.contains e.1

theorem nodup_withoutLists {t : Table} (ht : (t.map Prod.fst).Nodup) (lists : List String) :
    ((withoutLists lists t).map Prod.fst).Nodup := ht.sublist (List.filter_sublist.map _)

theorem get?_withoutLists {t : Table} (ht : (t.map Prod.fst).Nodup) (lists : List String)
    (key : String) :
    Table.get? (withoutLists lists t) key = if key ∈ lists then none else t.get? key := by
  rw [Table.get?_filter ht]
  split_ifs with hk <;> cases t.get? key <;> simp [Option.filter, hk]

theorem fieldOr_section {α : Type} {root : Table} {name key : String} {lists : List String}
    (h : (Value.table root).KeysOnce) (hkey : key ∉ lists) (read? : Value → Option α)
    (default : α) :
    fieldOr (withoutLists lists ((sectionAt? root name).getD [])) key read? default =
      fieldAt root name key read? default := by
  unfold fieldOr fieldAt valueAt?
  cases ht : sectionAt? root name with
  | none => rfl
  | some t =>
    rw [Option.getD_some, get?_withoutLists (nodup_section h ht), if_neg hkey]
    rfl

/-! ### The sections of a document -/

section Sections
variable {root : Table} (h : (Value.table root).KeysOnce)
include h

theorem value_scalars_section {α : Type} {decode? : Table → Option α} {fields : List Field}
    {best : Table → α} {default : α} (R : Fieldwise decode? [] fields best)
    (hdefault : default = best []) (name : String) (lists : List String) :
    (scalars decode? default name lists (sectionTable root name).value).value =
      best (withoutLists lists ((sectionAt? root name).getD [])) := by
  rw [value_sectionTable]
  cases ht : sectionAt? root name with
  | none => exact hdefault
  | some t =>
    have hkept := nodup_withoutLists (nodup_section h ht) lists
    have hvalue := R.lenient_value hkept (by simp) (by simp) name
    unfold scalars
    rw [Reported.value_bind, hvalue]
    rfl

theorem general_sections : (sections root).value.general =
    General.best .asText (withoutLists [] ((sectionAt? root "general").getD [])) :=
  value_scalars_section h (General.fieldwise .asText) rfl "general" []

theorem colors_sections : (sections root).value.colors =
    bestColors .asText (withoutLists [] ((sectionAt? root "colors").getD [])) :=
  value_scalars_section h (fieldwise_colors .asText) rfl "colors" []

theorem statusbar_sections : (sections root).value.statusbar =
    Statusbar.best .asText (withoutLists [] ((sectionAt? root "statusbar").getD [])) :=
  value_scalars_section h (Statusbar.fieldwise .asText) rfl "statusbar" []

theorem layouts_sections : (sections root).value.layouts =
    { Layouts.best .asText (withoutLists ["layout"] ((sectionAt? root "layouts").getD [])) with
      layout := (sections root).value.layouts.layout } := by
  have hdefault : ({} : Layouts) = Layouts.best .asText [] := rfl
  rw [← value_scalars_section h (Layouts.fieldwise .asText) hdefault "layouts" ["layout"]]
  rfl

theorem keys_sections : (sections root).value.keys =
    { Keys.best .asText (withoutLists ["key"] ((sectionAt? root "keys").getD [])) with
      key := (sections root).value.keys.key } := by
  have hdefault : ({} : Keys) = Keys.best .asText [] := rfl
  rw [← value_scalars_section h (Keys.fieldwise .asText) hdefault "keys" ["key"]]
  rfl

end Sections

/-- Each field of a section is what its own value in the document is read as, or its default. -/
structure FieldsReadAlone (dates : Dates) (root : Table) (s : Settings) : Prop where
  border : s.general.border = fieldAt root "general" "border" word16? 1
  snap : s.general.snap = fieldAt root "general" "snap" word16? 8
  resizeHints : s.general.resizeHints = fieldAt root "general" "resize_hints" bool? false
  opacityUnfocused :
    s.general.opacityUnfocused = fieldAt root "general" "opacity_unfocused" int? 100
  focusMovePointer :
    s.general.focusMovePointer = fieldAt root "general" "focus_move_pointer" bool? false
  font : s.general.font = fieldAt root "general" "font" (text? dates) "mono-12"
  normalBorder : s.colors.normalBorder =
    fieldAt root "colors" "normal_border" (text? dates) "#111111"
  normalBackground : s.colors.normalBackground =
    fieldAt root "colors" "normal_bg" (text? dates) "#111111"
  normalForeground : s.colors.normalForeground =
    fieldAt root "colors" "normal_fg" (text? dates) "#eeeeee"
  focusBorder : s.colors.focusBorder =
    fieldAt root "colors" "focus_border" (text? dates) "#6666ff"
  focusBackground : s.colors.focusBackground =
    fieldAt root "colors" "focus_bg" (text? dates) "#6666ff"
  focusForeground : s.colors.focusForeground =
    fieldAt root "colors" "focus_fg" (text? dates) "#ffffff"
  position : s.statusbar.position = fieldAt root "statusbar" "position" (text? dates) "top"
  mwfact : s.layouts.mwfact = fieldAt root "layouts" "mwfact" float? defaultMwfact
  nmaster : s.layouts.nmaster = fieldAt root "layouts" "nmaster" word32? 1
  ncol : s.layouts.ncol = fieldAt root "layouts" "ncol" word32? 1
  modkey : s.keys.modkey = fieldAt root "keys" "modkey" (text? dates) "Mod4"

/-- **Fields are read alone.** Before the ranges are checked, a field of a section is a function of
its own value in the document: of no sibling, no list beside it and no other section. A text field
also takes a date form, as its canonical text. -/
theorem fields_read_alone {text : String} {root : Table} (h : document? text = some root) :
    parse text = sections root >>= inRange ∧
      FieldsReadAlone .asText root (sections root).value := by
  have honce := keysOnce_of_document h
  refine ⟨parse_of_document h, ?_⟩
  constructor
  case border | snap | resizeHints | opacityUnfocused | focusMovePointer | font =>
    rw [general_sections honce]
    exact fieldOr_section honce (by simp) _ _
  case normalBorder | normalBackground | normalForeground | focusBorder | focusBackground
      | focusForeground =>
    rw [colors_sections honce]
    exact fieldOr_section honce (by simp) _ _
  case position =>
    rw [statusbar_sections honce]
    exact fieldOr_section honce (by simp) _ _
  case mwfact | nmaster | ncol =>
    rw [layouts_sections honce]
    exact fieldOr_section honce (by simp) _ _
  case modkey =>
    rw [keys_sections honce]
    exact fieldOr_section honce (by simp) _ _

/-- A document in which some fields of a section fit and others do not. -/
theorem fields_read_alone_mixed :
    ∃ root, document?
        "[general]\nborder = 70000\nsnap = 3\nfont = 7\n[layouts]\nlayout = 0\nncol = 2\n" =
        some root ∧
      (sections root).value.general.border = 1 ∧ (sections root).value.general.snap = 3 ∧
      (sections root).value.general.font = "mono-12" ∧ (sections root).value.layouts.ncol = 2 := by
  have h : document?
      "[general]\nborder = 70000\nsnap = 3\nfont = 7\n[layouts]\nlayout = 0\nncol = 2\n" =
        some [("general",
            .table [("border", .integer 70000), ("snap", .integer 3), ("font", .integer 7)]),
          ("layouts", .table [("layout", .integer 0), ("ncol", .integer 2)])] := by decide +kernel
  obtain ⟨-, hfields⟩ := fields_read_alone h
  exact ⟨_, h, hfields.border.trans rfl, hfields.snap.trans rfl, hfields.font.trans rfl,
    hfields.ncol.trans rfl⟩

/-- A date form in a text field is not replaced by the default: it is taken as a text. -/
theorem date_in_text_field :
    ∃ root, document? "[general]\nfont = 1979-05-27\n" = some root ∧
      valueAt? root "general" "font" = some (.datetime ⟨some ⟨1979, 5, 27⟩, none, none⟩) ∧
      (sections root).value.general.font = "1979-05-27" ∧
      ¬ FieldsReadAlone .refused root (sections root).value := by
  have h : document? "[general]\nfont = 1979-05-27\n" =
      some [("general", .table [("font", .datetime ⟨some ⟨1979, 5, 27⟩, none, none⟩)])] := by
    decide +kernel
  have hfont : (sections [("general", .table
      [("font", .datetime ⟨some ⟨1979, 5, 27⟩, none, none⟩)])]).value.general.font =
        "1979-05-27" := by
    rw [general_sections (keysOnce_of_document h)]
    rfl
  refine ⟨_, h, rfl, hfont, fun hrefused => ?_⟩
  have hdefault := hfont.symm.trans hrefused.font
  revert hdefault
  decide

end WmConfig.Settings
