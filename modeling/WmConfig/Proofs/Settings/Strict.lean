import WmConfig.Proofs.Settings.Entries

/-! # Strict reading

A document can also be read strictly: each section is decoded as a whole, and one that cannot be
decoded refuses the document (`strict?`). Strict reading succeeds iff all fields of all sections
fit (`strict?_eq_some_iff`); a list as a whole fits iff each of its items is complete. -/

namespace WmConfig.Settings

open Toml

/-! ### Strict reading -/

/-- A section as a whole; a missing one has its default. -/
def strictSection? {α : Type} (root : Table) (name : String) (decode? : Table → Option α)
    (default : α) : Option α :=
  match root.get? name with
  | none => some default
  | some (.table t) => decode? t
  | some _ => none

/-- The settings of a document of which every section can be decoded as a whole. -/
def strict? (root : Table) : Option Settings := do
  return {
    general := ← strictSection? root "general" (General.decode? .asText) {}
    colors := ← strictSection? root "colors" (decodeColors? .asText) defaultColors
    statusbar := ← strictSection? root "statusbar" (Statusbar.decode? .asText) {}
    tags := ← strictSection? root "tags" (decodeTags? .asText) []
    layouts := ← strictSection? root "layouts" (Layouts.decode? .asText) {}
    rules := ← strictSection? root "rules" (decodeRules? .asText) []
    keys := ← strictSection? root "keys" (Keys.decode? .asText) {} }

/-- What has a range is in it. -/
structure InRange (s : Settings) : Prop where
  opacity_nonneg : 0 ≤ s.general.opacityUnfocused
  opacity_le : s.general.opacityUnfocused ≤ 100
  mwfact_pos : (Binary.zero false).lt s.layouts.mwfact = true
  mwfact_le : s.layouts.mwfact.le (.ofInt 1) = true

/-- Each list that the document has is an array of tables. -/
def ListsOfTables (root : Table) : Prop :=
  ∀ (l : ListSection) (v : Value), valueAt? root l.name l.key = some v →
    ∃ ts : List Table, v = .array (ts.map .table)

/-- The names of the sections. -/
def sectionNames : List String :=
  ["general", "colors", "statusbar", "tags", "layouts", "rules", "keys"]

/-- The section is missing or a table. -/
def IsSection (root : Table) (name : String) : Prop :=
  ∀ v, root.get? name = some v → ∃ t, v = .table t

/-- The table of a section, empty if there is none. -/
abbrev tableOf (root : Table) (name : String) : Table := (sectionAt? root name).getD []

theorem strictSection?_eq_some_iff {α : Type} {decode? : Table → Option α} {fields : List Field}
    {best : Table → α} {default a : α} (R : Fieldwise decode? [] fields best)
    (hdefault : default = best []) {root : Table} {name : String} :
    strictSection? root name decode? default = some a ↔
      IsSection root name ∧ (∀ f ∈ fields, f.Fits (tableOf root name)) ∧
        a = best (tableOf root name) := by
  unfold strictSection? IsSection tableOf sectionAt?
  rw [hdefault]
  cases hv : root.get? name with
  | none =>
    have hfits : ∀ f ∈ fields, f.Fits [] := fun f _ v hv => by cases hv
    exact ⟨fun h => ⟨by simp, hfits, (Option.some.inj h).symm⟩, fun h => congrArg some h.2.2.symm⟩
  | some v =>
    cases v with
    | table t => simp [R.decode_eq_some_iff, Value.table?]
    | _ => simp

/-- All fields of all sections fit, the lists as a whole. -/
structure AllFit (root : Table) : Prop where
  general : ∀ f ∈ General.schema .asText, f.Fits (tableOf root "general")
  colors : ∀ f ∈ colorsSchema .asText, f.Fits (tableOf root "colors")
  statusbar : ∀ f ∈ Statusbar.schema .asText, f.Fits (tableOf root "statusbar")
  tags : ∀ f ∈ tagsSchema .asText, f.Fits (tableOf root "tags")
  layouts : ∀ f ∈ Layouts.schema .asText, f.Fits (tableOf root "layouts")
  rules : ∀ f ∈ rulesSchema .asText, f.Fits (tableOf root "rules")
  keys : ∀ f ∈ Keys.schema .asText, f.Fits (tableOf root "keys")

/-- What can be read of a document, the lists as a whole. -/
def bestOf (root : Table) : Settings where
  general := General.best .asText (tableOf root "general")
  colors := bestColors .asText (tableOf root "colors")
  statusbar := Statusbar.best .asText (tableOf root "statusbar")
  tags := bestTags .asText (tableOf root "tags")
  layouts := Layouts.best .asText (tableOf root "layouts")
  rules := bestRules .asText (tableOf root "rules")
  keys := Keys.best .asText (tableOf root "keys")

theorem strict?_eq_some_iff {root : Table} {s : Settings} :
    strict? root = some s ↔
      (∀ name ∈ sectionNames, IsSection root name) ∧ AllFit root ∧ s = bestOf root := by
  simp only [strict?, Option.bind_eq_bind, Option.bind_eq_some_iff, Option.pure_def,
    Option.some.injEq, sectionNames, List.forall_mem_cons,
    strictSection?_eq_some_iff (General.fieldwise .asText) (rfl : ({} : General) = _),
    strictSection?_eq_some_iff (fieldwise_colors .asText) (rfl : defaultColors = _),
    strictSection?_eq_some_iff (Statusbar.fieldwise .asText) (rfl : ({} : Statusbar) = _),
    strictSection?_eq_some_iff (fieldwise_tags .asText) (rfl : ([] : List Tag) = _),
    strictSection?_eq_some_iff (Layouts.fieldwise .asText) (rfl : ({} : Layouts) = _),
    strictSection?_eq_some_iff (fieldwise_rules .asText) (rfl : ([] : List Rule) = _),
    strictSection?_eq_some_iff (Keys.fieldwise .asText) (rfl : ({} : Keys) = _)]
  constructor
  · rintro ⟨_, ⟨i₁, f₁, rfl⟩, _, ⟨i₂, f₂, rfl⟩, _, ⟨i₃, f₃, rfl⟩, _, ⟨i₄, f₄, rfl⟩,
      _, ⟨i₅, f₅, rfl⟩, _, ⟨i₆, f₆, rfl⟩, _, ⟨i₇, f₇, rfl⟩, rfl⟩
    exact ⟨⟨i₁, i₂, i₃, i₄, i₅, i₆, i₇, by simp⟩, ⟨f₁, f₂, f₃, f₄, f₅, f₆, f₇⟩, rfl⟩
  · rintro ⟨⟨i₁, i₂, i₃, i₄, i₅, i₆, i₇, -⟩, ⟨f₁, f₂, f₃, f₄, f₅, f₆, f₇⟩, rfl⟩
    exact ⟨_, ⟨i₁, f₁, rfl⟩, _, ⟨i₂, f₂, rfl⟩, _, ⟨i₃, f₃, rfl⟩, _, ⟨i₄, f₄, rfl⟩,
      _, ⟨i₅, f₅, rfl⟩, _, ⟨i₆, f₆, rfl⟩, _, ⟨i₇, f₇, rfl⟩, rfl⟩

/-! ### Lists as a whole -/

theorem mapM_eq_some_iff {α β : Type} {f : α → Option β} {P : α → Prop} {g : α → β}
    (hf : ∀ a b, f a = some b ↔ P a ∧ b = g a) :
    ∀ (l : List α) (bs : List β), l.mapM f = some bs ↔ (∀ a ∈ l, P a) ∧ bs = l.map g
  | [], bs => by simp [eq_comm]
  | a :: l, bs => by
    simp only [List.mapM_cons, Option.bind_eq_bind, Option.bind_eq_some_iff, hf, Option.pure_def,
      Option.some.injEq, mapM_eq_some_iff hf l, List.forall_mem_cons, List.map_cons]
    constructor
    · rintro ⟨_, ⟨ha, rfl⟩, _, ⟨hl, rfl⟩, rfl⟩
      exact ⟨⟨ha, hl⟩, rfl⟩
    · rintro ⟨⟨ha, hl⟩, rfl⟩
      exact ⟨_, ⟨ha, rfl⟩, _, ⟨hl, rfl⟩, rfl⟩

namespace ListSection

/-- The entries of a list, all of them or none. -/
def strict? : (l : ListSection) → Value → Option (List l.Entry)
  | tags => tags? .asText
  | layouts => layouts? .asText
  | rules => rules? .asText
  | keys => keys? .asText

/-- The entry has the keys it needs and its fields fit. -/
def Complete (l : ListSection) (t : Table) : Prop :=
  (∀ k ∈ l.required, (t.get? k).isSome) ∧ ∀ f ∈ l.schema, f.Fits t

theorem strict?_array_eq_some_iff (l : ListSection) (ts : List Table) (as : List l.Entry) :
    l.strict? (.array (ts.map .table)) = some as ↔
      (∀ t ∈ ts, l.Complete t) ∧ as = ts.map l.best := by
  have hmap : l.strict? (.array (ts.map .table)) = ts.mapM l.decode? := by
    cases l <;> exact List.mapM_map
  rw [hmap]
  exact mapM_eq_some_iff (fun t a => by
    rw [l.fieldwise.decode_eq_some_iff, Complete, and_assoc]) ts as

variable {root : Table}

theorem items_eq (hlists : ListsOfTables root) (l : ListSection) :
    (valueAt? root l.name l.key = none ∧ l.items root = []) ∨
      ∃ ts : List Table, valueAt? root l.name l.key = some (.array (ts.map .table)) ∧
        l.items root = ts.map .table := by
  unfold items itemsOf
  cases hv : valueAt? root l.name l.key with
  | none =>
    refine Or.inl ⟨rfl, ?_⟩
    rw [valueAt?] at hv
    rw [hv]
  | some v =>
    obtain ⟨ts, rfl⟩ := hlists l v hv
    refine Or.inr ⟨ts, rfl, ?_⟩
    rw [valueAt?] at hv
    rw [hv]

theorem get?_tableOf (root : Table) (name key : String) :
    (tableOf root name).get? key = valueAt? root name key := by
  unfold tableOf valueAt?
  cases sectionAt? root name <;> rfl

/-- The list as a whole fits iff each of its items is complete. -/
theorem fits_iff (hlists : ListsOfTables root) (l : ListSection) :
    (Field.of l.key l.strict?).Fits (tableOf root l.name) ↔
      ∀ item ∈ l.items root, ∃ t, item = .table t ∧ l.Complete t := by
  unfold Field.Fits Field.of
  rw [get?_tableOf]
  rcases items_eq hlists l with ⟨hv, hitems⟩ | ⟨ts, hv, hitems⟩
  · simp [hv, hitems]
  · rw [hv, hitems]
    constructor
    · intro h item hitem
      obtain ⟨t, ht, rfl⟩ := List.mem_map.mp hitem
      obtain ⟨as, has⟩ := Option.isSome_iff_exists.mp (h _ rfl)
      exact ⟨t, rfl, ((l.strict?_array_eq_some_iff ts as).mp has).1 t ht⟩
    · rintro h v hv
      rw [← Option.some.inj hv]
      refine Option.isSome_iff_exists.mpr ⟨_, (l.strict?_array_eq_some_iff ts _).mpr ⟨?_, rfl⟩⟩
      intro t ht
      obtain ⟨t', heq, ht'⟩ := h _ (List.mem_map_of_mem ht)
      exact Value.table.inj heq ▸ ht'

/-- A list that fits as a whole holds what can be read of each of its items. -/
theorem fieldOr_list (hlists : ListsOfTables root) (l : ListSection)
    (hfits : (Field.of l.key l.strict?).Fits (tableOf root l.name)) :
    fieldOr (tableOf root l.name) l.key l.strict? [] =
      (l.items root).filterMap fun item => item.table?.map l.best := by
  have hall := (fits_iff hlists l).mp hfits
  unfold fieldOr
  rw [get?_tableOf]
  rcases items_eq hlists l with ⟨hv, hitems⟩ | ⟨ts, hv, hitems⟩
  · rw [hv, hitems]; rfl
  · have hcomplete : ∀ t ∈ ts, l.Complete t := by
      intro t ht
      obtain ⟨t', heq, ht'⟩ := hall _ (hitems ▸ List.mem_map_of_mem ht)
      exact Value.table.inj heq ▸ ht'
    rw [hv, hitems, Option.bind_some,
      (l.strict?_array_eq_some_iff ts _).mpr ⟨hcomplete, rfl⟩, List.filterMap_map]
    change ts.map l.best = ts.filterMap fun t => some (l.best t)
    rw [List.filterMap_eq_map']

end ListSection

end WmConfig.Settings
