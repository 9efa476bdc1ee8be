import WmConfig.Proofs.Settings.Reports

/-! # Documents that are alike

What is read of a document does not depend on the order of keys. Two documents that have the same
values, with entries in the lists that have the same values each, are read as the same settings,
and the same is reported of them (`Alike.ofTable_eq`). -/

namespace WmConfig.Settings

open Toml

/-- The key is the one of the list of the section. -/
def IsList (name key : String) : Prop := ∃ l : ListSection, l.name = name ∧ l.key = key

theorem isList_iff {name key : String} : IsList name key ↔
    (name, key) ∈ [("tags", "tag"), ("layouts", "layout"), ("rules", "rule"), ("keys", "key")] := by
  constructor
  · rintro ⟨l, rfl, rfl⟩
    cases l <;> decide
  · simp only [List.mem_cons, Prod.mk.injEq, List.not_mem_nil, or_false]
    rintro (⟨rfl, rfl⟩ | ⟨rfl, rfl⟩ | ⟨rfl, rfl⟩ | ⟨rfl, rfl⟩)
    exacts [⟨.tags, rfl, rfl⟩, ⟨.layouts, rfl, rfl⟩, ⟨.rules, rfl, rfl⟩, ⟨.keys, rfl, rfl⟩]

instance (name key : String) : Decidable (IsList name key) := decidable_of_iff _ isList_iff.symm

/-- Two items of a list that are the same up to the order of keys. -/
inductive SameItem : Value → Value → Prop
  | refl (v : Value) : SameItem v v
  | table {t t' : Table} (h : ∀ key, t.get? key = t'.get? key) : SameItem (.table t) (.table t')

/-- Two documents that are the same up to the order of keys, and up to lists without items. -/
structure Alike (root root' : Table) : Prop where
  kind : ∀ name, notTable root name = notTable root' name
  fields : ∀ name key, ¬ IsList name key → valueAt? root name key = valueAt? root' name key
  items : ∀ l : ListSection, List.Forall₂ SameItem (l.items root) (l.items root')

/-! ### Items -/

theorem misfits_congr {fields : List Field} {t t' : Table}
    (h : ∀ f ∈ fields, ((t.get? f.key).any fun v => !f.fits v) =
      (t'.get? f.key).any fun v => !f.fits v) : misfits fields t = misfits fields t' := by
  rw [misfits, misfits, List.filter_congr h]

namespace SameItem

variable {v v' : Value} (h : SameItem v v')
include h

theorem kept (l : ListSection) :
    (keptTable? l.titled v).map l.best = (keptTable? l.titled v').map l.best := by
  cases h with
  | refl => rfl
  | @table t t' hget =>
    have hbest : l.best t = l.best t' := l.fieldwise.best_congr t t' fun f _ => by rw [hget]
    simp only [keptTable?, Value.table?, Option.filter_some, hget]
    split_ifs
    · rw [Option.map_some, Option.map_some, hbest]
    · rfl

theorem itemDefects (l : ListSection) (index : Nat) :
    l.itemDefects (v, index) = l.itemDefects (v', index) := by
  cases h with
  | refl => rfl
  | @table t t' hget =>
    have hkept : (keptTable? l.titled (.table t)).isSome =
        (keptTable? l.titled (.table t')).isSome := by
      have hmap := congrArg Option.isSome ((SameItem.table hget).kept l)
      rwa [Option.isSome_map, Option.isSome_map] at hmap
    have hmisfits : misfits l.schema t = misfits l.schema t' := misfits_congr fun f _ => by rw [hget]
    simp only [ListSection.itemDefects, Value.table?, hkept, hmisfits]

end SameItem

theorem filterMap_kept (l : ListSection) {items items' : List Value}
    (h : List.Forall₂ SameItem items items') :
    items.filterMap (fun item => (keptTable? l.titled item).map l.best) =
      items'.filterMap fun item => (keptTable? l.titled item).map l.best := by
  induction h with
  | nil => rfl
  | cons hitem _ ih => rw [List.filterMap_cons, List.filterMap_cons, hitem.kept l, ih]

theorem flatMap_itemDefects (l : ListSection) {items items' : List Value}
    (h : List.Forall₂ SameItem items items') : ∀ index,
    (items.zipIdx index).flatMap l.itemDefects = (items'.zipIdx index).flatMap l.itemDefects := by
  induction h with
  | nil => exact fun _ => rfl
  | cons hitem _ ih =>
    intro index
    rw [List.zipIdx_cons, List.zipIdx_cons, List.flatMap_cons, List.flatMap_cons,
      hitem.itemDefects l, ih]

/-! ### Documents -/

namespace Alike

variable {root root' : Table} (h : Alike root root')
include h

theorem fieldAt {α : Type} {name key : String} (hkey : ¬ IsList name key)
    (read? : Value → Option α) (default : α) :
    fieldAt root name key read? default = fieldAt root' name key read? default := by
  rw [Settings.fieldAt, Settings.fieldAt, h.fields name key hkey]

theorem fieldDefects (s : FieldSection) : s.defects root = s.defects root' := by
  have hkeys : ∀ key ∈ s.schema.map Field.key, ¬ IsList s.name key := by cases s <;> decide
  have hmisfits : misfits s.schema (tableOf root s.name) =
      misfits s.schema (tableOf root' s.name) := misfits_congr fun f hf => by
    rw [ListSection.get?_tableOf, ListSection.get?_tableOf,
      h.fields _ _ (hkeys f.key (List.mem_map_of_mem hf))]
  rw [FieldSection.defects, FieldSection.defects, hmisfits]

theorem listDefects (l : ListSection) : l.defects root = l.defects root' :=
  flatMap_itemDefects l (h.items l) 0

theorem defects_eq : defects root = defects root' := by
  have hkind : notTable root = notTable root' := funext h.kind
  simp only [defects, hkind, h.fieldDefects, h.listDefects,
    h.fieldAt (show ¬ IsList "general" "opacity_unfocused" by decide),
    h.fieldAt (show ¬ IsList "layouts" "mwfact" by decide)]

section Values
variable (honce : (Value.table root).KeysOnce) (honce' : (Value.table root').KeysOnce)
include honce honce'

theorem listed (l : ListSection) :
    l.listed (sections root).value = l.listed (sections root').value := by
  rw [listed_sections honce, listed_sections honce']
  exact filterMap_kept l (h.items l)

/-- What is made of the fields of a section that are no lists. -/
theorem best_eq {α : Type} {decode? : Table → Option α} {fields : List Field} {best : Table → α}
    (R : Fieldwise decode? [] fields best) {name : String} {lists : List String}
    (hlists : ∀ key, IsList name key → key ∈ lists) :
    best (withoutLists lists ((sectionAt? root name).getD [])) =
      best (withoutLists lists ((sectionAt? root' name).getD [])) := by
  have hget : ∀ {root : Table}, (Value.table root).KeysOnce → ∀ key,
      Table.get? (withoutLists lists ((sectionAt? root name).getD [])) key =
        if key ∈ lists then none else valueAt? root name key := by
    intro root honce key
    rw [← ListSection.get?_tableOf, tableOf]
    cases ht : sectionAt? root name with
    | none => exact ite_self _ |>.symm
    | some t => exact get?_withoutLists (nodup_section honce ht) lists key
  refine R.best_congr _ _ fun f _ => ?_
  rw [hget honce, hget honce']
  split_ifs with hkey
  · rfl
  · rw [h.fields name f.key fun hlist => hkey (hlists f.key hlist)]

theorem value_sections : (sections root).value = (sections root').value := by
  have general : (sections root).value.general = (sections root').value.general := by
    rw [general_sections honce, general_sections honce']
    exact h.best_eq honce honce' (General.fieldwise .asText) (by simp [isList_iff])
  have colors : (sections root).value.colors = (sections root').value.colors := by
    rw [colors_sections honce, colors_sections honce']
    exact h.best_eq honce honce' (fieldwise_colors .asText) (by simp [isList_iff])
  have statusbar : (sections root).value.statusbar = (sections root').value.statusbar := by
    rw [statusbar_sections honce, statusbar_sections honce']
    exact h.best_eq honce honce' (Statusbar.fieldwise .asText) (by simp [isList_iff])
  have layouts : (sections root).value.layouts = (sections root').value.layouts := by
    have hlist : (sections root).value.layouts.layout = (sections root').value.layouts.layout :=
      h.listed honce honce' .layouts
    rw [layouts_sections honce, layouts_sections honce', hlist,
      h.best_eq honce honce' (Layouts.fieldwise .asText) (by simp [isList_iff])]
  have keys : (sections root).value.keys = (sections root').value.keys := by
    have hlist : (sections root).value.keys.key = (sections root').value.keys.key :=
      h.listed honce honce' .keys
    rw [keys_sections honce, keys_sections honce', hlist,
      h.best_eq honce honce' (Keys.fieldwise .asText) (by simp [isList_iff])]
  have tags : (sections root).value.tags = (sections root').value.tags :=
    h.listed honce honce' .tags
  have rules : (sections root).value.rules = (sections root').value.rules :=
    h.listed honce honce' .rules
  have hfields : ∀ s : Settings,
      s = ⟨s.general, s.colors, s.statusbar, s.tags, s.layouts, s.rules, s.keys⟩ := fun _ => rfl
  rw [hfields (sections root).value, hfields (sections root').value, general, colors, statusbar,
    tags, layouts, rules, keys]

/-- **Alike documents are read alike.** -/
theorem ofTable_eq : ofTable root = ofTable root' := by
  have hvalue : (ofTable root).value = (ofTable root').value := by
    rw [ofTable, ofTable, Reported.value_bind, Reported.value_bind,
      h.value_sections honce honce']
  have hwarnings : (ofTable root).warnings = (ofTable root').warnings := by
    rw [warnings_ofTable honce, warnings_ofTable honce', h.defects_eq]
  have hparts : ∀ r : Reported Settings, r = ⟨r.value, r.warnings⟩ := fun _ => rfl
  rw [hparts (ofTable root), hparts (ofTable root'), hvalue, hwarnings]

end Values

end Alike

end WmConfig.Settings
