import WmConfig.Proofs.Settings.Appended
import WmConfig.Proofs.Settings.Forms

/-! # Settings of documents that differ in one place

Two documents may differ at one key of a section only (`DiffersAt`). Then what is read differs in
this section only (`value_ofTable_eq`), and if what the one has there is reported like what the
other has, all that is reported is the same (`DiffersAt.defects_eq`). If the key is the one of a
list, the items may differ at one of them only (`Swapped`); then the list differs in this entry only
(`Swapped.listed_eq`). -/

namespace WmConfig.Settings

open Toml

/-- The tables of the entries that are kept. -/
def ListSection.keptTables (l : ListSection) (root : Table) : List Table :=
  (l.items root).filterMap (keptTable? l.titled)

/-! ### The sections -/

theorem FieldSection.name_inj {s s' : FieldSection} (h : s.name = s'.name) : s = s' := by
  cases s <;> cases s' <;> first | rfl | exact absurd h (by decide)

/-- Everything as in the first settings, apart from one section. -/
def withSection (name : String) (s s' : Settings) : Settings where
  general := if name = "general" then s'.general else s.general
  colors := if name = "colors" then s'.colors else s.colors
  statusbar := if name = "statusbar" then s'.statusbar else s.statusbar
  tags := if name = "tags" then s'.tags else s.tags
  layouts := if name = "layouts" then s'.layouts else s.layouts
  rules := if name = "rules" then s'.rules else s.rules
  keys := if name = "keys" then s'.keys else s.keys

/-- **Settings differ in the section in which the documents differ.** -/
theorem value_ofTable_eq {name : String} {root root' : Table}
    (h : ∀ k, k ≠ name → root'.get? k = root.get? k) :
    (ofTable root').value = withSection name (ofTable root).value (ofTable root').value := by
  have hpart : ∀ {α : Type} {k : String} (part : Settings → α),
      ReadsOnly k (fun root => part (ofTable root).value) → part (ofTable root').value =
        if name = k then part (ofTable root').value else part (ofTable root).value := by
    intro α k part hpart
    split_ifs with hk
    · rfl
    · exact hpart (h k (Ne.symm hk))
  have hfields : ∀ s : Settings,
      s = ⟨s.general, s.colors, s.statusbar, s.tags, s.layouts, s.rules, s.keys⟩ := fun _ => rfl
  rw [withSection, ← hpart general .general, ← hpart colors .colors, ← hpart statusbar .statusbar,
    ← hpart tags .tags, ← hpart layouts .layouts, ← hpart rules .rules, ← hpart keys .keys]

section Sections
variable {root : Table} (honce : (Value.table root).KeysOnce)
include honce

/-- The section `general` of a document, field by field. -/
theorem general_ofTable : (ofTable root).value.general =
    { border := fieldAt root "general" "border" word16? 1
      snap := fieldAt root "general" "snap" word16? 8
      resizeHints := fieldAt root "general" "resize_hints" bool? false
      opacityUnfocused := clampOpacity (fieldAt root "general" "opacity_unfocused" int? 100)
      focusMovePointer := fieldAt root "general" "focus_move_pointer" bool? false
      font := fieldAt root "general" "font" (text? .asText) "mono-12" } := by
  change { (sections root).value.general with
    opacityUnfocused := clampOpacity (sections root).value.general.opacityUnfocused } = _
  rw [general_sections honce]
  simp only [General.best, fieldOr_section honce List.not_mem_nil]

/-- The section `colors` of a document, field by field. -/
theorem colors_ofTable : (ofTable root).value.colors =
    { normalBorder := fieldAt root "colors" "normal_border" (text? .asText) "#111111"
      normalBackground := fieldAt root "colors" "normal_bg" (text? .asText) "#111111"
      normalForeground := fieldAt root "colors" "normal_fg" (text? .asText) "#eeeeee"
      focusBorder := fieldAt root "colors" "focus_border" (text? .asText) "#6666ff"
      focusBackground := fieldAt root "colors" "focus_bg" (text? .asText) "#6666ff"
      focusForeground := fieldAt root "colors" "focus_fg" (text? .asText) "#ffffff" } := by
  change (sections root).value.colors = _
  rw [colors_sections honce]
  simp only [bestColors, fieldOr_section honce List.not_mem_nil]

/-- The section `statusbar` of a document. -/
theorem statusbar_ofTable : (ofTable root).value.statusbar =
    { position := fieldAt root "statusbar" "position" (text? .asText) "top" } := by
  change (sections root).value.statusbar = _
  rw [statusbar_sections honce]
  simp only [Statusbar.best, fieldOr_section honce List.not_mem_nil]

/-- The lists of a document. -/
theorem listed_ofTable (l : ListSection) :
    l.listed (ofTable root).value = (l.keptTables root).map l.best := by
  rw [ofTable, Reported.value_bind, listed_inRange, listed_sections honce, ListSection.keptTables,
    List.map_filterMap]

/-- The section `layouts` of a document. -/
theorem layouts_ofTable : (ofTable root).value.layouts =
    { layout := ListSection.layouts.listed (ofTable root).value
      mwfact :=
        if isShare (fieldAt root "layouts" "mwfact" float? defaultMwfact) then
          fieldAt root "layouts" "mwfact" float? defaultMwfact
        else defaultMwfact
      nmaster := fieldAt root "layouts" "nmaster" word32? 1
      ncol := fieldAt root "layouts" "ncol" word32? 1 } := by
  change { (sections root).value.layouts with
      mwfact := if isShare (sections root).value.layouts.mwfact then
        (sections root).value.layouts.mwfact else defaultMwfact } =
    { layout := (sections root).value.layouts.layout, mwfact := _, nmaster := _, ncol := _ }
  rw [layouts_sections honce]
  simp only [Layouts.best, fieldOr_section honce (show "mwfact" ∉ ["layout"] by decide),
    fieldOr_section honce (show "nmaster" ∉ ["layout"] by decide),
    fieldOr_section honce (show "ncol" ∉ ["layout"] by decide)]

/-- The section `keys` of a document. -/
theorem keys_ofTable : (ofTable root).value.keys =
    { modkey := fieldAt root "keys" "modkey" (text? .asText) "Mod4"
      key := ListSection.keys.listed (ofTable root).value } := by
  change (sections root).value.keys = { modkey := _, key := (sections root).value.keys.key }
  rw [keys_sections honce]
  simp only [Keys.best, fieldOr_section honce (show "modkey" ∉ ["key"] by decide)]

end Sections

/-! ### Differing at a key -/

theorem ReadsOnly.valueAt (name key : String) : ReadsOnly name (valueAt? · name key) :=
  (ReadsOnly.sectionAt name).comp fun t => t.bind (Table.get? · key)

theorem notTable_of_section {root t : Table} {name : String} (h : sectionAt? root name = some t) :
    notTable root name = [] := by
  rw [notTable, sectionAt_eq_some_iff.mp h]
  rfl

/-- The documents are the same but for the value at a key of a section. -/
structure DiffersAt (name key : String) (root root' : Table) : Prop where
  others : ∀ k, k ≠ name → root'.get? k = root.get? k
  kind : notTable root' name = notTable root name
  fields : ∀ k, k ≠ key → valueAt? root' name k = valueAt? root name k

namespace DiffersAt

variable {name key : String} {root root' : Table}

theorem refl : DiffersAt name key root root :=
  ⟨fun _ _ => rfl, rfl, fun _ _ => rfl⟩

variable (h : DiffersAt name key root root')
include h

theorem valueAt?_eq {name' k : String} (hne : name' = name → k ≠ key) :
    valueAt? root' name' k = valueAt? root name' k := by
  by_cases hname : name' = name
  · rw [hname, h.fields k (hne hname)]
  · exact ReadsOnly.valueAt name' k (h.others name' hname)

theorem fieldAt_eq {α : Type} {name' k : String} (hne : name' = name → k ≠ key)
    (read? : Value → Option α) (default : α) :
    fieldAt root' name' k read? default = fieldAt root name' k read? default := by
  rw [fieldAt, fieldAt, h.valueAt?_eq hne]

theorem notTable_eq (name' : String) : notTable root' name' = notTable root name' := by
  by_cases hname : name' = name
  · rw [hname, h.kind]
  · exact ReadsOnly.notTable name' (h.others name' hname)

theorem items_eq {l : ListSection} (hne : l.name = name → l.key ≠ key) :
    l.items root' = l.items root := ListSection.items_congr (h.valueAt?_eq hne)

theorem listDefects_eq {l : ListSection} (hne : l.name = name → l.key ≠ key) :
    l.defects root' = l.defects root := by
  rw [ListSection.defects, ListSection.defects, h.items_eq hne]

theorem listed_eq {l : ListSection} (hne : l.name = name → l.key ≠ key)
    (honce : (Value.table root).KeysOnce) (honce' : (Value.table root').KeysOnce) :
    l.listed (ofTable root').value = l.listed (ofTable root).value := by
  rw [listed_ofTable honce', listed_ofTable honce, ListSection.keptTables, ListSection.keptTables,
    h.items_eq hne]

/-- **What is reported of the rest**: if what is reported at the key is the same, so is all. -/
theorem defects_eq
    (hfields : ∀ s : FieldSection, s.name = name → ∀ f ∈ s.schema, f.key = key →
      ((valueAt? root' name key).any fun v => !f.fits v) =
        (valueAt? root name key).any fun v => !f.fits v)
    (hlists : ∀ l : ListSection, l.name = name → l.key = key → l.defects root' = l.defects root)
    (hopacity : "general" = name → "opacity_unfocused" ≠ key)
    (hmwfact : "layouts" = name → "mwfact" ≠ key) : defects root' = defects root := by
  have hkinds : notTable root' = notTable root := funext h.notTable_eq
  have hsections : ∀ s : FieldSection, s.defects root' = s.defects root := by
    intro s
    refine congrArg (List.map _) (misfits_congr fun f hf => ?_)
    rw [ListSection.get?_tableOf, ListSection.get?_tableOf]
    by_cases hkey : s.name = name ∧ f.key = key
    · rw [hkey.1, hkey.2, hfields s hkey.1 f hf hkey.2]
    · rw [h.valueAt?_eq fun hname heq => hkey ⟨hname, heq⟩]
  have hall : ∀ l : ListSection, l.defects root' = l.defects root := by
    intro l
    by_cases hkey : l.name = name ∧ l.key = key
    · exact hlists l hkey.1 hkey.2
    · exact h.listDefects_eq fun hname heq => hkey ⟨hname, heq⟩
  simp only [defects, hkinds, hsections, hall, h.fieldAt_eq hopacity, h.fieldAt_eq hmwfact]

end DiffersAt

/-! ### Differing in an entry -/

/-- The documents are the same but for the value at a key of an entry of a list; `t` and `t'` are
the tables of this entry, and `index` is its place among those that are kept. -/
structure Swapped (l : ListSection) (index : Nat) (key : String) (t t' root root' : Table) :
    Prop where
  differs : DiffersAt l.name l.key root root'
  items : ∃ front back, l.items root = front ++ .table t :: back ∧
    l.items root' = front ++ .table t' :: back ∧
      (front.filterMap (keptTable? l.titled)).length = index
  kept : keptTable? l.titled (.table t) = some t
  kept' : keptTable? l.titled (.table t') = some t'
  others : ∀ k, k ≠ key → t'.get? k = t.get? k

theorem modify_append {α : Type} (f : α → α) (a : α) (back : List α) : ∀ front : List α,
    (front ++ a :: back).modify front.length f = front ++ f a :: back
  | [] => rfl
  | b :: front => by
    rw [List.cons_append, List.length_cons, List.modify_succ_cons, modify_append f a back front,
      List.cons_append]

namespace Swapped

variable {l : ListSection} {index : Nat} {key : String} {t t' root root' : Table}
  (h : Swapped l index key t t' root root')
include h

/-- The list holds another entry in the place, and is the same otherwise. -/
theorem listed_eq (honce : (Value.table root).KeysOnce) (honce' : (Value.table root').KeysOnce)
    {edit : l.Entry → l.Entry} (hedit : l.best t' = edit (l.best t)) :
    l.listed (ofTable root').value = (l.listed (ofTable root).value).modify index edit := by
  obtain ⟨front, back, hitems, hitems', rfl⟩ := h.items
  rw [listed_ofTable honce, listed_ofTable honce', ListSection.keptTables, ListSection.keptTables,
    hitems, hitems', List.filterMap_append, List.filterMap_append,
    List.filterMap_cons_some h.kept, List.filterMap_cons_some h.kept', List.map_append,
    List.map_append, List.map_cons, List.map_cons, hedit,
    ← List.length_map l.best, modify_append]

/-- What is reported of the items is the same if the same fields of the entry do not fit. -/
theorem defects_eq (hfields : ∀ f ∈ l.schema, f.key = key →
    ((t'.get? key).any fun v => !f.fits v) = (t.get? key).any fun v => !f.fits v) :
    defects root' = defects root := by
  obtain ⟨front, back, hitems, hitems', -⟩ := h.items
  have hmisfits : misfits l.schema t' = misfits l.schema t := by
    refine misfits_congr fun f hf => ?_
    by_cases hkey : f.key = key
    · rw [hkey, hfields f hf hkey]
    · rw [h.others _ hkey]
  have hitem : ∀ i, l.itemDefects (.table t', i) = l.itemDefects (.table t, i) := by
    intro i
    simp only [ListSection.itemDefects, Value.table?, h.kept, h.kept', hmisfits, Option.isSome_some]
  refine h.differs.defects_eq (fun s hname f hf hkey => ?_) (fun l' hname hkey => ?_)
    (fun hname => ?_) (fun hname => ?_)
  · have hlist : ¬ IsList s.name f.key := by
      have hall : ∀ key ∈ s.schema.map Field.key, ¬ IsList s.name key := by cases s <;> decide
      exact hall _ (List.mem_map_of_mem hf)
    exact absurd ⟨l, hname.symm, hkey.symm⟩ hlist
  · obtain rfl : l' = l := by
      cases l <;> cases l' <;> first | rfl | exact absurd hname (by decide)
    simp only [ListSection.defects, hitems, hitems', List.zipIdx_append, List.zipIdx_cons,
      List.flatMap_append, List.flatMap_cons, hitem]
  · revert hname
    cases l <;> decide
  · revert hname
    cases l <;> decide

end Swapped

end WmConfig.Settings
