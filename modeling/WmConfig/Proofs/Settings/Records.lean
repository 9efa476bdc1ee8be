import WmConfig.Proofs.Settings.Fields

/-! # The records of a configuration file

What each section and each entry of a list is made of: its fields (`schema`), and the record of
what can be read of a table (`best`), a field that cannot be read having its default. Each decoder
reads its record field by field (`fieldwise`). -/

namespace WmConfig.Settings

open Toml

variable (dates : Dates) (t : Table)

/-! ### Sections without lists -/

/-- The fields of the section `general`. -/
def General.schema : List Field :=
  [.of "border" word16?, .of "snap" word16?, .of "resize_hints" bool?,
    .of "opacity_unfocused" int?, .of "focus_move_pointer" bool?, .of "font" (text? dates)]

/-- What can be read of the section `general`. -/
def General.best : General where
  border := fieldOr t "border" word16? 1
  snap := fieldOr t "snap" word16? 8
  resizeHints := fieldOr t "resize_hints" bool? false
  opacityUnfocused := fieldOr t "opacity_unfocused" int? 100
  focusMovePointer := fieldOr t "focus_move_pointer" bool? false
  font := fieldOr t "font" (text? dates) "mono-12"

theorem General.fieldwise :
    Fieldwise (General.decode? dates) [] (General.schema dates) (General.best dates) where
  keys := by simp [General.schema, Field.of]
  decode_eq_some_iff t a := by
    simp [General.decode?, General.schema, General.best, Option.bind_eq_some_iff,
      field?_eq_some_iff, and_assoc, eq_comm (a := a)]
  best_congr t t' h := by
    simp only [General.schema, List.forall_mem_cons] at h
    obtain ⟨h₁, h₂, h₃, h₄, h₅, h₆, -⟩ := h
    simp only [General.best, fieldOr_congr h₁, fieldOr_congr h₂, fieldOr_congr h₃,
      fieldOr_congr h₄, fieldOr_congr h₅, fieldOr_congr h₆]

/-- The fields of the section `colors`. -/
def colorsSchema : List Field :=
  [.of "normal_border" (text? dates), .of "normal_bg" (text? dates), .of "normal_fg" (text? dates),
    .of "focus_border" (text? dates), .of "focus_bg" (text? dates), .of "focus_fg" (text? dates)]

/-- What can be read of the section `colors`. -/
def bestColors : Palette String where
  normalBorder := fieldOr t "normal_border" (text? dates) "#111111"
  normalBackground := fieldOr t "normal_bg" (text? dates) "#111111"
  normalForeground := fieldOr t "normal_fg" (text? dates) "#eeeeee"
  focusBorder := fieldOr t "focus_border" (text? dates) "#6666ff"
  focusBackground := fieldOr t "focus_bg" (text? dates) "#6666ff"
  focusForeground := fieldOr t "focus_fg" (text? dates) "#ffffff"

theorem fieldwise_colors :
    Fieldwise (decodeColors? dates) [] (colorsSchema dates) (bestColors dates) where
  keys := by simp [colorsSchema, Field.of]
  decode_eq_some_iff t a := by
    simp [decodeColors?, colorsSchema, bestColors, defaultColors, Option.bind_eq_some_iff,
      field?_eq_some_iff, and_assoc, eq_comm (a := a)]
  best_congr t t' h := by
    simp only [colorsSchema, List.forall_mem_cons] at h
    obtain ⟨h₁, h₂, h₃, h₄, h₅, h₆, -⟩ := h
    simp only [bestColors, fieldOr_congr h₁, fieldOr_congr h₂, fieldOr_congr h₃,
      fieldOr_congr h₄, fieldOr_congr h₅, fieldOr_congr h₆]

/-- The fields of the section `statusbar`. -/
def Statusbar.schema : List Field := [.of "position" (text? dates)]

/-- What can be read of the section `statusbar`. -/
def Statusbar.best : Statusbar where
  position := fieldOr t "position" (text? dates) "top"

theorem Statusbar.fieldwise :
    Fieldwise (Statusbar.decode? dates) [] (Statusbar.schema dates) (Statusbar.best dates) where
  keys := by simp [Statusbar.schema]
  decode_eq_some_iff t a := by
    simp [Statusbar.decode?, Statusbar.schema, Statusbar.best, Option.bind_eq_some_iff,
      field?_eq_some_iff, eq_comm (a := a)]
  best_congr t t' h := by
    simp only [Statusbar.schema, List.forall_mem_cons] at h
    simp only [Statusbar.best, fieldOr_congr h.1]

/-! ### Entries of lists -/

/-- The fields of an entry of `tags.tag`. -/
def Tag.schema : List Field := [.of "title" (text? dates), .of "layout" (text? dates)]

/-- What can be read of an entry of `tags.tag`. -/
def Tag.best : Tag where
  title := fieldOr t "title" (text? dates) ""
  layout := fieldOr t "layout" (text? dates) "tile"

/-- The fields of an entry of `layouts.layout`. -/
def Layout.schema : List Field := [.of "title" (text? dates), .of "symbol" (text? dates)]

/-- What can be read of an entry of `layouts.layout`. -/
def Layout.best : Layout where
  title := fieldOr t "title" (text? dates) ""
  symbol := fieldOr t "symbol" (text? dates) "???"

/-- A required text. -/
theorem exists_text_iff {dates : Dates} {t : Table} {key s : String} :
    (∃ v, t.get? key = some v ∧ text? dates v = some s) ↔ (t.get? key).isSome = true ∧
      (Field.of key (text? dates)).Fits t ∧ s = fieldOr t key (text? dates) "" := by
  unfold Field.Fits fieldOr Field.of
  rw [eq_comm (a := s)]
  cases t.get? key with
  | none => simp
  | some v => cases h : text? dates v <;> simp [h]

theorem Tag.fieldwise :
    Fieldwise (Tag.decode? dates) ["title"] (Tag.schema dates) (Tag.best dates) where
  keys := by simp [Tag.schema, Field.of]
  decode_eq_some_iff t a := by
    simp [Tag.decode?, Tag.schema, Tag.best, Option.bind_eq_some_iff, exists_text_iff,
      field?_eq_some_iff, and_assoc, eq_comm (a := a)]
  best_congr t t' h := by
    simp only [Tag.schema, List.forall_mem_cons] at h
    simp only [Tag.best, fieldOr_congr h.1, fieldOr_congr h.2.1]

theorem Layout.fieldwise :
    Fieldwise (Layout.decode? dates) ["title"] (Layout.schema dates) (Layout.best dates) where
  keys := by simp [Layout.schema, Field.of]
  decode_eq_some_iff t a := by
    simp [Layout.decode?, Layout.schema, Layout.best, Option.bind_eq_some_iff,
      exists_text_iff, field?_eq_some_iff, and_assoc, eq_comm (a := a)]
  best_congr t t' h := by
    simp only [Layout.schema, List.forall_mem_cons] at h
    simp only [Layout.best, fieldOr_congr h.1, fieldOr_congr h.2.1]

/-- The fields of an entry of `rules.rule`. -/
def Rule.schema : List Field :=
  [.of "name" (text? dates), .of "tags" (text? dates), .of "float" bool?]

/-- What can be read of an entry of `rules.rule`. -/
def Rule.best : Rule where
  name := fieldOr t "name" (text? dates) ""
  tags := fieldOr t "tags" (text? dates) ""
  float := fieldOr t "float" bool? false

theorem Rule.fieldwise :
    Fieldwise (Rule.decode? dates) [] (Rule.schema dates) (Rule.best dates) where
  keys := by simp [Rule.schema, Field.of]
  decode_eq_some_iff t a := by
    simp [Rule.decode?, Rule.schema, Rule.best, Option.bind_eq_some_iff, field?_eq_some_iff,
      and_assoc, eq_comm (a := a)]
  best_congr t t' h := by
    simp only [Rule.schema, List.forall_mem_cons] at h
    obtain ⟨h₁, h₂, h₃, -⟩ := h
    simp only [Rule.best, fieldOr_congr h₁, fieldOr_congr h₂, fieldOr_congr h₃]

/-- An argument, which may be missing. -/
def arg? (dates : Dates) (v : Value) : Option (Option String) := (text? dates v).map some

/-- The fields of an entry of `keys.key`. -/
def Key.schema : List Field :=
  [.of "modkey" (names? dates), .of "key" (text? dates), .of "command" (text? dates),
    .of "arg" (arg? dates)]

/-- What can be read of an entry of `keys.key`. -/
def Key.best : Key where
  modkey := fieldOr t "modkey" (names? dates) ["Mod4"]
  key := fieldOr t "key" (text? dates) "None"
  command := fieldOr t "command" (text? dates) ""
  arg := fieldOr t "arg" (arg? dates) none

theorem Key.fieldwise :
    Fieldwise (Key.decode? dates) [] (Key.schema dates) (Key.best dates) where
  keys := by simp [Key.schema, Field.of]
  decode_eq_some_iff t a := by
    have harg : (fun v => (text? dates v).map some) = arg? dates := rfl
    simp [Key.decode?, harg, Key.schema, Key.best, Option.bind_eq_some_iff, field?_eq_some_iff,
      and_assoc, eq_comm (a := a)]
  best_congr t t' h := by
    simp only [Key.schema, List.forall_mem_cons] at h
    obtain ⟨h₁, h₂, h₃, h₄, -⟩ := h
    simp only [Key.best, fieldOr_congr h₁, fieldOr_congr h₂, fieldOr_congr h₃, fieldOr_congr h₄]

/-! ### Sections with lists -/

/-- The entries of `tags.tag`, all of them or none. -/
abbrev tags? : Value → Option (List Tag) := entries? dates Tag.fields (Tag.decode? dates)

/-- The fields of the section `tags`. -/
def tagsSchema : List Field := [.of "tag" (tags? dates)]

/-- What can be read of the section `tags`. -/
def bestTags : List Tag := fieldOr t "tag" (tags? dates) []

theorem fieldwise_tags : Fieldwise (decodeTags? dates) [] (tagsSchema dates) (bestTags dates) where
  keys := by simp [tagsSchema]
  decode_eq_some_iff t a := by
    simp [decodeTags?, tagsSchema, bestTags, field?_eq_some_iff]
  best_congr t t' h := by
    simp only [tagsSchema, List.forall_mem_cons] at h
    simp only [bestTags, fieldOr_congr h.1]

/-- The entries of `rules.rule`, all of them or none. -/
abbrev rules? : Value → Option (List Rule) := entries? dates Rule.fields (Rule.decode? dates)

/-- The fields of the section `rules`. -/
def rulesSchema : List Field := [.of "rule" (rules? dates)]

/-- What can be read of the section `rules`. -/
def bestRules : List Rule := fieldOr t "rule" (rules? dates) []

theorem fieldwise_rules :
    Fieldwise (decodeRules? dates) [] (rulesSchema dates) (bestRules dates) where
  keys := by simp [rulesSchema]
  decode_eq_some_iff t a := by
    simp [decodeRules?, rulesSchema, bestRules, field?_eq_some_iff]
  best_congr t t' h := by
    simp only [rulesSchema, List.forall_mem_cons] at h
    simp only [bestRules, fieldOr_congr h.1]

/-- The entries of `layouts.layout`, all of them or none. -/
abbrev layouts? : Value → Option (List Layout) :=
  entries? dates Layout.fields (Layout.decode? dates)

/-- The fields of the section `layouts`. -/
def Layouts.schema : List Field :=
  [.of "layout" (layouts? dates), .of "mwfact" float?, .of "nmaster" word32?, .of "ncol" word32?]

/-- What can be read of the section `layouts`. -/
def Layouts.best : Layouts where
  layout := fieldOr t "layout" (layouts? dates) []
  mwfact := fieldOr t "mwfact" float? defaultMwfact
  nmaster := fieldOr t "nmaster" word32? 1
  ncol := fieldOr t "ncol" word32? 1

theorem Layouts.fieldwise :
    Fieldwise (Layouts.decode? dates) [] (Layouts.schema dates) (Layouts.best dates) where
  keys := by simp [Layouts.schema, Field.of]
  decode_eq_some_iff t a := by
    simp [Layouts.decode?, Layouts.schema, Layouts.best, Option.bind_eq_some_iff,
      field?_eq_some_iff, and_assoc, eq_comm (a := a)]
  best_congr t t' h := by
    simp only [Layouts.schema, List.forall_mem_cons] at h
    obtain ⟨h₁, h₂, h₃, h₄, -⟩ := h
    simp only [Layouts.best, fieldOr_congr h₁, fieldOr_congr h₂, fieldOr_congr h₃,
      fieldOr_congr h₄]

/-- The entries of `keys.key`, all of them or none. -/
abbrev keys? : Value → Option (List Key) := entries? dates Key.fields (Key.decode? dates)

/-- The fields of the section `keys`. -/
def Keys.schema : List Field := [.of "modkey" (text? dates), .of "key" (keys? dates)]

/-- What can be read of the section `keys`. -/
def Keys.best : Keys where
  modkey := fieldOr t "modkey" (text? dates) "Mod4"
  key := fieldOr t "key" (keys? dates) []

theorem Keys.fieldwise :
    Fieldwise (Keys.decode? dates) [] (Keys.schema dates) (Keys.best dates) where
  keys := by simp [Keys.schema, Field.of]
  decode_eq_some_iff t a := by
    simp [Keys.decode?, Keys.schema, Keys.best, Option.bind_eq_some_iff, field?_eq_some_iff,
      and_assoc, eq_comm (a := a)]
  best_congr t t' h := by
    simp only [Keys.schema, List.forall_mem_cons] at h
    simp only [Keys.best, fieldOr_congr h.1, fieldOr_congr h.2.1]

end WmConfig.Settings
