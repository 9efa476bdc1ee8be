import WmConfig.Proofs.Number.Order
import WmConfig.Proofs.Settings.Agreement
import WmConfig.Proofs.Text.Bytes

/-! # What is reported

Every defect of a document is reported once, in a fixed order, and nothing else is
(`defects_reported_once`). The list of `defects` is read off the document: a section that is no
table, a field whose value does not fit, an item of a list that is skipped, a value out of range.
What is reported of a table are its `misfits`, and the two reports of a section or an entry that
cannot be read at all are never raised, since fields that fit alone fit together. -/

namespace WmConfig.Settings

open Toml

/-! ### Fields that do not fit -/

/-- The fields that a table has with a value that does not fit, in the order of the bytes of their
keys. -/
def misfits (fields : List Field) (t : Table) : List String :=
  ((fields.filter fun f => (t.get? f.key).any fun v => !f.fits v).map Field.key).mergeSort
    fun a b => decide (bytes a ≤ bytes b)

theorem any_not_fits {f : Field} {t : Table} :
    ((t.get? f.key).any fun v => !f.fits v) = true ↔ ¬ f.Fits t := by
  unfold Field.Fits
  cases t.get? f.key <;> simp

theorem mem_misfits {fields : List Field} {t : Table} {key : String} :
    key ∈ misfits fields t ↔ ∃ f ∈ fields, f.key = key ∧ ¬ f.Fits t := by
  simp only [misfits, List.mem_mergeSort, List.mem_map, List.mem_filter, any_not_fits]
  constructor
  · rintro ⟨f, ⟨hf, hmisfit⟩, rfl⟩
    exact ⟨f, hf, rfl, hmisfit⟩
  · rintro ⟨f, hf, rfl, hmisfit⟩
    exact ⟨f, ⟨hf, hmisfit⟩, rfl⟩

theorem misfits_nil (fields : List Field) : misfits fields [] = [] := by
  refine List.eq_nil_iff_forall_not_mem.mpr fun key hkey => ?_
  obtain ⟨f, -, -, hmisfit⟩ := mem_misfits.mp hkey
  exact hmisfit fun v hv => by cases hv

theorem key_mem_misfits {fields : List Field} (hfields : (fields.map Field.key).Nodup) {t : Table}
    {f : Field} (hf : f ∈ fields) : f.key ∈ misfits fields t ↔ ¬ f.Fits t := by
  rw [mem_misfits]
  constructor
  · rintro ⟨f', hf', hkey, hmisfit⟩
    rwa [List.inj_on_of_nodup_map hfields hf hf' hkey.symm]
  · exact fun hmisfit => ⟨f, hf, rfl, hmisfit⟩

theorem nodup_misfits {fields : List Field} (hfields : (fields.map Field.key).Nodup) (t : Table) :
    (misfits fields t).Nodup :=
  (List.mergeSort_perm _ _).nodup_iff.mpr (hfields.sublist (List.filter_sublist.map _))

/-- What is sorted by a text stands in the order of that text. -/
theorem sorted_mergeSort {α : Type} (key : α → String) (l : List α) :
    ((l.mergeSort fun a b => decide (key a ≤ key b)).map key).Pairwise (· ≤ ·) := by
  have hsorted := @List.pairwise_mergeSort _ (fun a b => decide (key a ≤ key b))
    (fun a b c hab hbc =>
      decide_eq_true (String.le_trans (of_decide_eq_true hab) (of_decide_eq_true hbc)))
    (fun a b => by simpa using String.le_total (key a) (key b)) l
  exact List.pairwise_map.mpr (hsorted.imp fun h => of_decide_eq_true h)

theorem sorted_misfits (fields : List Field) (t : Table) :
    (misfits fields t).Pairwise (· ≤ ·) := by
  simp only [misfits, bytes_le_iff]
  simpa using sorted_mergeSort id
    ((fields.filter fun f => (t.get? f.key).any fun v => !f.fits v).map Field.key)

/-- The fields of a table without its lists are the fields that are no lists. -/
theorem misfits_withoutLists {fields : List Field} {t : Table} (ht : (t.map Prod.fst).Nodup)
    (lists : List String) : misfits fields (withoutLists lists t) =
      misfits (fields.filter fun f => !lists.contains f.key) t := by
  have hget : ∀ f : Field, (Table.get? (withoutLists lists t) f.key).any (fun v => !f.fits v) =
      ((t.get? f.key).any (fun v => !f.fits v) && !lists.contains f.key) := by
    intro f
    rw [get?_withoutLists ht]
    split_ifs with hkey <;> simp [hkey]
  simp only [misfits, hget, List.filter_filter]

namespace Fieldwise

variable {α : Type} {decode? : Table → Option α} {required : List String} {fields : List Field}
  {best : Table → α} {t : Table} (R : Fieldwise decode? required fields best)
  (ht : (t.map Prod.fst).Nodup) (hreq : ∀ k ∈ required, (t.get? k).isSome)
  (hfits : ∀ f ∈ fields, f.key ∈ required → f.Fits t)
include R ht hreq hfits

/-- A key that does not fit alone is a field with a value that does not fit. -/
theorem exists_misfit {e : String × Value} (hk : e.1 ∉ required)
    (hmisfit : fitsAlone decode? required t e = false) :
    ∃ f ∈ fields, f.key = e.1 ∧ f.fits e.2 ≠ true := by
  by_contra hn
  push Not at hn
  have hfit := (R.fitsAlone_iff ht hreq hfits hk).mpr hn
  rw [hfit] at hmisfit
  cases hmisfit

/-- **What lenient reading reports**: the fields that do not fit, each once and in order. -/
theorem warnings_lenient (path : String) :
    (lenient? decode? path required t).warnings =
      (misfits fields t).map (.fieldInvalid path) := by
  have hreported : ((others required t).filter fun e => !fitsAlone decode? required t e).map
      Prod.fst = misfits fields t := by
    have hsublist := (List.filter_sublist (l := others required t)
      (p := fun e => !fitsAlone decode? required t e)).map Prod.fst
    have hnodup := (nodup_others ht).sublist hsublist
    have hsorted := (sorted_mergeSort Prod.fst
      (t.filter fun e => !required.contains e.1)).sublist hsublist
    refine List.Perm.eq_of_pairwise (fun _ _ _ _ => String.le_antisymm) hsorted
      (sorted_misfits fields t)
      ((List.perm_ext_iff_of_nodup hnodup (nodup_misfits R.keys t)).mpr ?_)
    intro key
    simp only [List.mem_map, List.mem_filter, mem_others, mem_misfits, Bool.not_eq_true']
    constructor
    · rintro ⟨e, ⟨⟨he, hk⟩, hmisfit⟩, rfl⟩
      obtain ⟨f, hf, hkey, hv⟩ := R.exists_misfit ht hreq hfits hk hmisfit
      exact ⟨f, hf, hkey, fun h => hv (h e.2 (hkey ▸ (lookup_eq_some_iff ht).mpr he))⟩
    · rintro ⟨f, hf, rfl, hmisfit⟩
      have hk : f.key ∉ required := fun hk => hmisfit (hfits f hf hk)
      obtain ⟨v, hv, hvf⟩ : ∃ v, t.get? f.key = some v ∧ f.fits v ≠ true := by
        unfold Field.Fits at hmisfit
        push Not at hmisfit
        exact hmisfit
      refine ⟨(f.key, v), ⟨⟨(lookup_eq_some_iff ht).mp hv, hk⟩, ?_⟩, rfl⟩
      rw [R.fitsAlone_field ht hreq hfits hf hk]
      exact Bool.eq_false_of_not_eq_true hvf
  rw [← hreported, List.map_map]
  rfl

end Fieldwise

/-! ### The defects of a document -/

/-- The sections with fields that are no lists. -/
inductive FieldSection where
  /-- The section `general`. -/
  | general
  /-- The section `colors`. -/
  | colors
  /-- The section `statusbar`. -/
  | statusbar
  /-- The section `layouts`. -/
  | layouts
  /-- The section `keys`. -/
  | keys

namespace FieldSection

/-- The name of the section. -/
def name : FieldSection → String
  | general => "general"
  | colors => "colors"
  | statusbar => "statusbar"
  | layouts => "layouts"
  | keys => "keys"

/-- The fields of the section that are no lists. -/
def schema : FieldSection → List Field
  | general => General.schema .asText
  | colors => colorsSchema .asText
  | statusbar => Statusbar.schema .asText
  | layouts => [.of "mwfact" float?, .of "nmaster" word32?, .of "ncol" word32?]
  | keys => [.of "modkey" (text? .asText)]

/-- The fields of the section whose values do not fit. -/
def defects (s : FieldSection) (root : Table) : List Warning :=
  (misfits s.schema (tableOf root s.name)).map (.fieldInvalid s.name)

end FieldSection

namespace ListSection

/-- The path of the entries. -/
def path (l : ListSection) : String := l.name ++ "." ++ l.key

/-- What is wrong with the item at a place of the list: that it is skipped, or else its fields whose
values do not fit. -/
def itemDefects (l : ListSection) (item : Value × Nat) : List Warning :=
  match item.1.table? with
  | none => [.entryNotTable l.path item.2 item.1.kind]
  | some t =>
    if (keptTable? l.titled item.1).isSome then (misfits l.schema t).map (.fieldInvalid l.path)
    else [.entryUntitled l.path item.2]

/-- What is wrong with the items of the list, in their order. -/
def defects (l : ListSection) (root : Table) : List Warning :=
  (l.items root).zipIdx.flatMap l.itemDefects

end ListSection

/-- That a section is present but no table. -/
def notTable (root : Table) (name : String) : List Warning :=
  (((root.get? name).filter fun v => v.table?.isNone).map fun v =>
    .sectionNotTable name v.kind).toList

/-- What is out of its range. -/
def outOfRange (opacity : Int) (mwfact : Binary64) : List Warning :=
  (if opacity < 0 then [.opacityClamped opacity 0]
    else if 100 < opacity then [.opacityClamped opacity 100] else []) ++
  (if mwfact.toRat?.any fun q => 0 < q ∧ q ≤ 1 then [] else [.mwfactReplaced mwfact defaultMwfact])

/-- The defects of a document in the order in which they are reported. -/
def defects (root : Table) : List Warning :=
  ["tags", "layouts", "rules", "keys"].flatMap (notTable root) ++
  notTable root "general" ++ FieldSection.general.defects root ++
  notTable root "colors" ++ FieldSection.colors.defects root ++
  notTable root "statusbar" ++ FieldSection.statusbar.defects root ++
  ListSection.tags.defects root ++
  ListSection.layouts.defects root ++ FieldSection.layouts.defects root ++
  ListSection.rules.defects root ++
  ListSection.keys.defects root ++ FieldSection.keys.defects root ++
  outOfRange (fieldAt root "general" "opacity_unfocused" int? 100)
    (fieldAt root "layouts" "mwfact" float? defaultMwfact)

/-! ### What is reported are the defects -/

theorem warnings_sectionTable (root : Table) (name : String) :
    (sectionTable root name).warnings = notTable root name := by
  unfold sectionTable notTable
  cases root.get? name with
  | none => rfl
  | some v => cases v <;> rfl

theorem warnings_scalars {α : Type} {decode? : Table → Option α} {fields : List Field}
    {best : Table → α} {default : α} (R : Fieldwise decode? [] fields best) {root : Table}
    (honce : (Value.table root).KeysOnce) (name : String) (lists : List String) :
    (scalars decode? default name lists (sectionTable root name).value).warnings =
      (misfits (fields.filter fun f => !lists.contains f.key) (tableOf root name)).map
        (.fieldInvalid name) := by
  rw [value_sectionTable, tableOf]
  cases ht : sectionAt? root name with
  | none =>
    rw [Option.getD_none, misfits_nil]
    rfl
  | some t =>
    have hnodup := nodup_section honce ht
    have hkept := nodup_withoutLists hnodup lists
    unfold scalars
    rw [Reported.warnings_bind, R.lenient_value hkept (by simp) (by simp) name,
      R.warnings_lenient hkept (by simp) (by simp) name, misfits_withoutLists hnodup]
    exact List.append_nil _

namespace ListSection

theorem warnings_entry (l : ListSection) {item : Value} (honce : item.KeysOnce) (index : Nat) :
    (entry l.decode? l.path l.titled (item, index)).warnings = l.itemDefects (item, index) := by
  cases item with
  | table t =>
    have hitem : l.itemDefects (.table t, index) =
        if (keptTable? l.titled (.table t)).isSome
          then (misfits l.schema t).map (.fieldInvalid l.path) else [.entryUntitled l.path index] :=
      rfl
    rw [hitem]
    cases hkept : keptTable? l.titled (.table t) with
    | none =>
      have hskip : (l.titled && !(Table.get? t "title").any Value.isString) = true := by
        rw [keptTable?, Value.table?, Option.filter_some_eq_none] at hkept
        simpa using hkept
      simp only [entry, hskip, if_true]
      rfl
    | some t' =>
      obtain ⟨hreq, hfits⟩ := fits_required hkept
      obtain ⟨heq, -⟩ := keptTable?_eq_some_iff.mp hkept
      obtain rfl := Value.table.inj heq
      cases honce with
      | table keys =>
        rcases entry_eq l l.path (.table t) index with ⟨w, -, hnone⟩ | ⟨t', hsome, hentry⟩
        · rw [hnone] at hkept
          cases hkept
        · obtain rfl := Option.some.inj (hsome.symm.trans hkept)
          rw [hentry _ (l.fieldwise.lenient_value keys hreq hfits l.path)]
          exact l.fieldwise.warnings_lenient keys hreq hfits l.path
  | _ => rfl

theorem warnings_read (l : ListSection) {root : Table} (honce : (Value.table root).KeysOnce) :
    (l.read root).warnings = l.defects root := by
  rw [read_eq, Reported.warnings_filterMap]
  exact List.flatMap_congr fun p hp =>
    l.warnings_entry (keysOnce_items honce l p.1 (List.fst_mem_of_mem_zipIdx hp)) p.2

end ListSection

theorem warnings_inRange (s : Settings) :
    (inRange s).warnings = outOfRange s.general.opacityUnfocused s.layouts.mwfact := by
  have hshare : (s.layouts.mwfact.toRat?.any fun q => 0 < q ∧ q ≤ 1) =
      isShare s.layouts.mwfact := by
    rw [Bool.eq_iff_iff, isShare, Bool.and_eq_true, Binary.share_iff, Option.any_eq_true]
    simp
  have hopacity : ∀ n : Int,
      (if n = clampOpacity n then [] else [Warning.opacityClamped n (clampOpacity n)]) =
        if n < 0 then [.opacityClamped n 0]
        else if 100 < n then [.opacityClamped n 100] else [] := by
    intro n
    unfold clampOpacity maxOpacity
    split_ifs with heq hneg hlarge hneg hlarge
    · omega
    · omega
    · rfl
    · rw [show max 0 (min n 100) = 0 by omega]
    · rw [show max 0 (min n 100) = 100 by omega]
    · omega
  unfold inRange outOfRange
  simp only [hopacity, hshare]
  cases isShare s.layouts.mwfact <;> rfl

section Documents
variable {root : Table} (honce : (Value.table root).KeysOnce)
include honce

theorem warnings_sections : (sections root).warnings ++
    outOfRange (fieldAt root "general" "opacity_unfocused" int? 100)
      (fieldAt root "layouts" "mwfact" float? defaultMwfact) = defects root := by
  have hgeneral : (scalars (General.decode? .asText) {} "general" []
      (sectionTable root "general").value).warnings = FieldSection.general.defects root :=
    warnings_scalars (General.fieldwise .asText) honce "general" []
  have hcolors : (scalars (decodeColors? .asText) defaultColors "colors" []
      (sectionTable root "colors").value).warnings = FieldSection.colors.defects root :=
    warnings_scalars (fieldwise_colors .asText) honce "colors" []
  have hstatusbar : (scalars (Statusbar.decode? .asText) {} "statusbar" []
      (sectionTable root "statusbar").value).warnings = FieldSection.statusbar.defects root :=
    warnings_scalars (Statusbar.fieldwise .asText) honce "statusbar" []
  have hlayouts : (scalars (Layouts.decode? .asText) {} "layouts" ["layout"]
      (sectionTable root "layouts").value).warnings = FieldSection.layouts.defects root :=
    warnings_scalars (Layouts.fieldwise .asText) honce "layouts" ["layout"]
  have hkeys : (scalars (Keys.decode? .asText) {} "keys" ["key"]
      (sectionTable root "keys").value).warnings = FieldSection.keys.defects root :=
    warnings_scalars (Keys.fieldwise .asText) honce "keys" ["key"]
  have htag : (entries (Tag.decode? .asText) "tags" "tag" true
      (sectionTable root "tags").value).warnings = ListSection.tags.defects root :=
    ListSection.tags.warnings_read honce
  have hlayout : (entries (Layout.decode? .asText) "layouts" "layout" true
      (sectionTable root "layouts").value).warnings = ListSection.layouts.defects root :=
    ListSection.layouts.warnings_read honce
  have hrule : (entries (Rule.decode? .asText) "rules" "rule" false
      (sectionTable root "rules").value).warnings = ListSection.rules.defects root :=
    ListSection.rules.warnings_read honce
  have hkey : (entries (Key.decode? .asText) "keys" "key" false
      (sectionTable root "keys").value).warnings = ListSection.keys.defects root :=
    ListSection.keys.warnings_read honce
  simp only [sections, defects, Reported.warnings_bind, Reported.warnings_pure,
    warnings_sectionTable, hgeneral, hcolors, hstatusbar, hlayouts, hkeys, htag, hlayout, hrule,
    hkey, List.flatMap_cons, List.flatMap_nil, List.append_nil, List.append_assoc]

/-- **What is reported of a document are its defects.** -/
theorem warnings_ofTable : (ofTable root).warnings = defects root := by
  rw [ofTable, Reported.warnings_bind, warnings_inRange, general_sections honce,
    layouts_sections honce, ← warnings_sections honce]
  have hopacity : fieldOr (withoutLists [] (tableOf root "general")) "opacity_unfocused" int? 100 =
      fieldAt root "general" "opacity_unfocused" int? 100 := fieldOr_section honce (by simp) _ _
  have hmwfact : fieldOr (withoutLists ["layout"] (tableOf root "layouts")) "mwfact" float?
      defaultMwfact = fieldAt root "layouts" "mwfact" float? defaultMwfact :=
    fieldOr_section honce (by simp) _ _
  rw [← hopacity, ← hmwfact]
  rfl

end Documents

/-! ### Nothing else is reported -/

/-- Whether the warning is about something in the document itself. -/
def isDefect : Warning → Bool
  | .sectionNotTable .. | .fieldInvalid .. | .entryNotTable .. | .entryUntitled .. => true
  | .opacityClamped .. | .mwfactReplaced .. => true
  | _ => false

section IsDefect
variable {root : Table} {w : Warning}

theorem isDefect_of_mem_notTable {name : String} (hw : w ∈ notTable root name) :
    isDefect w = true := by
  obtain ⟨v, -, rfl⟩ := Option.map_eq_some_iff.mp (Option.mem_toList.mp hw)
  rfl

theorem FieldSection.isDefect_of_mem (s : FieldSection) (hw : w ∈ s.defects root) :
    isDefect w = true := by
  obtain ⟨key, -, rfl⟩ := List.mem_map.mp hw
  rfl

theorem ListSection.isDefect_of_mem (l : ListSection) (hw : w ∈ l.defects root) :
    isDefect w = true := by
  obtain ⟨item, -, hw⟩ := List.mem_flatMap.mp hw
  unfold ListSection.itemDefects at hw
  split at hw
  · rw [List.mem_singleton.mp hw]
    rfl
  · split_ifs at hw
    · obtain ⟨key, -, rfl⟩ := List.mem_map.mp hw
      rfl
    · rw [List.mem_singleton.mp hw]
      rfl

theorem isDefect_of_mem_outOfRange {opacity : Int} {mwfact : Binary64}
    (hw : w ∈ outOfRange opacity mwfact) : isDefect w = true := by
  unfold outOfRange at hw
  rcases List.mem_append.mp hw with hw | hw
  · split_ifs at hw with hneg hlarge
    · rw [List.mem_singleton.mp hw]
      rfl
    · rw [List.mem_singleton.mp hw]
      rfl
    · cases hw
  · split_ifs at hw with hshare
    · cases hw
    · rw [List.mem_singleton.mp hw]
      rfl

theorem isDefect_of_mem (hw : w ∈ defects root) : isDefect w = true := by
  have hfirst : ∀ w ∈ ["tags", "layouts", "rules", "keys"].flatMap (notTable root),
      isDefect w = true := by
    intro w hw
    obtain ⟨name, -, hw⟩ := List.mem_flatMap.mp hw
    exact isDefect_of_mem_notTable hw
  have htable : ∀ name, ∀ w ∈ notTable root name, isDefect w = true :=
    fun _ _ => isDefect_of_mem_notTable
  have hfields : ∀ s : FieldSection, ∀ w ∈ s.defects root, isDefect w = true :=
    fun s _ => s.isDefect_of_mem
  have hitems : ∀ l : ListSection, ∀ w ∈ l.defects root, isDefect w = true :=
    fun l _ => l.isDefect_of_mem
  revert w
  simp only [defects, List.forall_mem_append, and_assoc]
  exact ⟨hfirst, htable _, hfields _, htable _, hfields _, htable _, hfields _, hitems _,
    hitems _, hfields _, hitems _, hitems _, hfields _, fun _ => isDefect_of_mem_outOfRange⟩

end IsDefect

/-! ### Each field is reported once -/

theorem FieldSection.keys_schema (s : FieldSection) : (s.schema.map Field.key).Nodup := by
  cases s with
  | general => exact (General.fieldwise .asText).keys
  | colors => exact (fieldwise_colors .asText).keys
  | statusbar => exact (Statusbar.fieldwise .asText).keys
  | layouts => simp [schema, Field.of]
  | keys => simp [schema]

section Counts
variable (root : Table) (path key : String)

theorem count_map_fieldInvalid (path' : String) (keys : List String) :
    (keys.map (Warning.fieldInvalid path')).count (.fieldInvalid path key) =
      if path' = path then keys.count key else 0 := by
  split_ifs with h
  · rw [h]
    exact List.count_map_of_injective _ _ (fun _ _ h => (Warning.fieldInvalid.inj h).2) key
  · refine List.count_eq_zero.mpr fun hmem => ?_
    obtain ⟨k, -, hk⟩ := List.mem_map.mp hmem
    exact h (Warning.fieldInvalid.inj hk).1

theorem count_misfits {fields : List Field} (hfields : (fields.map Field.key).Nodup) (t : Table)
    {f : Field} (hf : f ∈ fields) : (misfits fields t).count f.key =
      if (t.get? f.key).any fun v => !f.fits v then 1 else 0 := by
  rw [(nodup_misfits hfields t).count]
  exact if_congr ((key_mem_misfits hfields hf).trans any_not_fits.symm) rfl rfl

theorem FieldSection.count_defects (s : FieldSection) :
    (s.defects root).count (.fieldInvalid path key) =
      if s.name = path then (misfits s.schema (tableOf root s.name)).count key else 0 :=
  count_map_fieldInvalid path key s.name _

/-- How often an item has the field with a value that does not fit. -/
theorem ListSection.count_defects (l : ListSection) :
    (l.defects root).count (.fieldInvalid path key) =
      if l.path = path then (l.items root).countP fun item =>
        (keptTable? l.titled item).any fun t => decide (key ∈ misfits l.schema t) else 0 := by
  have hitem : ∀ item i, (l.itemDefects (item, i)).count (.fieldInvalid path key) =
      if l.path = path ∧ ((keptTable? l.titled item).any fun t =>
        decide (key ∈ misfits l.schema t)) = true then 1 else 0 := by
    intro item i
    unfold itemDefects
    cases hkept : keptTable? l.titled item with
    | none =>
      rw [if_neg (by simp)]
      split <;> rfl
    | some t =>
      obtain ⟨rfl, -⟩ := keptTable?_eq_some_iff.mp hkept
      have hcount : (misfits l.schema t).count key =
          if key ∈ misfits l.schema t then 1 else 0 := (nodup_misfits l.fieldwise.keys t).count
      simp only [Value.table?, Option.isSome_some, if_true, count_map_fieldInvalid, hcount,
        Option.any_some, decide_eq_true_eq, ite_and]
  have hitems : ∀ (items : List Value) (i : Nat),
      ((items.zipIdx i).flatMap l.itemDefects).count (.fieldInvalid path key) =
        if l.path = path then items.countP fun item =>
          (keptTable? l.titled item).any fun t => decide (key ∈ misfits l.schema t) else 0 := by
    intro items
    induction items with
    | nil => simp
    | cons item items ih =>
      intro i
      rw [List.zipIdx_cons, List.flatMap_cons, List.count_append, hitem, ih, List.countP_cons]
      by_cases hpath : l.path = path
      · simp only [hpath, true_and, if_true]
        omega
      · simp only [hpath, false_and, if_false, Nat.add_zero]
  exact hitems _ 0

theorem count_defects : (defects root).count (.fieldInvalid path key) =
    ((FieldSection.general.defects root).count (.fieldInvalid path key) +
    (FieldSection.colors.defects root).count (.fieldInvalid path key) +
    (FieldSection.statusbar.defects root).count (.fieldInvalid path key) +
    (FieldSection.layouts.defects root).count (.fieldInvalid path key) +
    (FieldSection.keys.defects root).count (.fieldInvalid path key)) + (
    (ListSection.tags.defects root).count (.fieldInvalid path key) +
    (ListSection.layouts.defects root).count (.fieldInvalid path key) +
    (ListSection.rules.defects root).count (.fieldInvalid path key) +
    (ListSection.keys.defects root).count (.fieldInvalid path key)) := by
  have hnotTable : ∀ name, (notTable root name).count (.fieldInvalid path key) = 0 := by
    intro name
    refine List.count_eq_zero.mpr fun hmem => ?_
    obtain ⟨v, -, hv⟩ := Option.map_eq_some_iff.mp (Option.mem_toList.mp hmem)
    cases hv
  have hrange : ∀ n x, (outOfRange n x).count (.fieldInvalid path key) = 0 := by
    intro n x
    unfold outOfRange
    split_ifs <;> rfl
  simp only [defects, List.count_append, List.flatMap_cons, List.flatMap_nil, hnotTable, hrange,
    List.count_nil]
  omega

end Counts

theorem FieldSection.count_fieldInvalid (s : FieldSection) (root : Table) {f : Field}
    (hf : f ∈ s.schema) : (Settings.defects root).count (.fieldInvalid s.name f.key) =
      if (valueAt? root s.name f.key).any fun v => !f.fits v then 1 else 0 := by
  rw [← ListSection.get?_tableOf, ← count_misfits s.keys_schema _ hf, Settings.count_defects]
  simp only [FieldSection.count_defects, ListSection.count_defects]
  cases s <;> simp [FieldSection.name, ListSection.path, ListSection.name, ListSection.key]

theorem ListSection.count_fieldInvalid (l : ListSection) (root : Table) {f : Field}
    (hf : f ∈ l.schema) : (Settings.defects root).count (.fieldInvalid l.path f.key) =
      (l.items root).countP fun item => (keptTable? l.titled item).any fun t =>
        (t.get? f.key).any fun v => !f.fits v := by
  have hmem : ∀ t, decide (f.key ∈ misfits l.schema t) =
      (Table.get? t f.key).any fun v => !f.fits v := by
    intro t
    rw [Bool.eq_iff_iff, decide_eq_true_iff, any_not_fits]
    exact key_mem_misfits l.fieldwise.keys hf
  rw [Settings.count_defects]
  simp only [FieldSection.count_defects, ListSection.count_defects]
  cases l <;> simp [FieldSection.name, ListSection.path, ListSection.name, ListSection.key, hmem]

/-! ### Documents -/

/-- **Every defect is reported once, in order, and nothing else.** What is reported of a document is
the list of its defects; so a known field of a section is reported once if it has a value that does
not fit, and one of the entries as often as there are such entries. No text at all makes a section
or an entry be given up as a whole. -/
theorem defects_reported_once (text : String) :
    (∀ w ∈ (parse text).warnings,
      w.message ≠ "Invalid section in configuration file, using defaults" ∧
        w.message ≠ "Invalid entry, skipped") ∧
      ∀ root, document? text = some root →
        (parse text).warnings = defects root ∧
        (∀ s : FieldSection, ∀ f ∈ s.schema,
          (parse text).warnings.count (.fieldInvalid s.name f.key) =
            if (valueAt? root s.name f.key).any fun v => !f.fits v then 1 else 0) ∧
        ∀ l : ListSection, ∀ f ∈ l.schema,
          (parse text).warnings.count (.fieldInvalid l.path f.key) =
            (l.items root).countP fun item => (keptTable? l.titled item).any fun t =>
              (t.get? f.key).any fun v => !f.fits v := by
  have hdefects : ∀ root, document? text = some root → (parse text).warnings = defects root := by
    intro root h
    rw [parse_of_document h, warnings_ofTable (keysOnce_of_document h)]
  have hmessage : ∀ w : Warning, isDefect w = true ∨ w = .malformed →
      w.message ≠ "Invalid section in configuration file, using defaults" ∧
        w.message ≠ "Invalid entry, skipped" := by
    intro w hw
    cases w <;> simp_all [isDefect, Warning.message]
  refine ⟨fun w hw => hmessage w ?_, fun root h => ?_⟩
  · cases h : document? text with
    | some root =>
      rw [hdefects root h] at hw
      exact Or.inl (isDefect_of_mem hw)
    | none =>
      have hparse : parse text = ⟨{}, [.malformed]⟩ := by
        unfold parse
        rw [show (Toml.parse? text).bind Table.withDates? = none from h]
      rw [hparse] at hw
      exact Or.inr (List.mem_singleton.mp hw)
  · rw [hdefects root h]
    exact ⟨rfl, fun s f hf => s.count_fieldInvalid root hf,
      fun l f hf => l.count_fieldInvalid root hf⟩

/-- A section that is no table, and two fields reported in another order than they are written. -/
theorem defects_reported_once_mixed :
    (parse "tags = 3\n[general]\nsnap = 'x'\nborder = 'y'\n").warnings =
      [.sectionNotTable "tags" "integer", .fieldInvalid "general" "border",
        .fieldInvalid "general" "snap"] := by
  have h : document? "tags = 3\n[general]\nsnap = 'x'\nborder = 'y'\n" =
      some [("tags", .integer 3),
        ("general", .table [("snap", .string "x"), ("border", .string "y")])] := by decide +kernel
  have hrange : outOfRange 100 defaultMwfact = [] :=
    (warnings_inRange {}).symm.trans (warnings_inRange_eq_nil.mpr inRange_default)
  have hgeneral : FieldSection.general.defects [("tags", .integer 3),
      ("general", .table [("snap", .string "x"), ("border", .string "y")])] =
        [.fieldInvalid "general" "border", .fieldInvalid "general" "snap"] :=
    congrArg (List.map _) (List.mergeSort_of_pairwise (by decide))
  have hother : ∀ s : FieldSection, s ≠ .general → s.defects [("tags", .integer 3),
      ("general", .table [("snap", .string "x"), ("border", .string "y")])] = [] := by
    intro s hs
    cases s with
    | general => exact absurd rfl hs
    | colors | statusbar | layouts | keys => exact congrArg (List.map _) (misfits_nil _)
  refine ((defects_reported_once _).2 _ h).1.trans ?_
  change _ ++ outOfRange 100 defaultMwfact = _
  rw [hrange, hgeneral, hother .colors (by simp), hother .statusbar (by simp),
    hother .layouts (by simp), hother .keys (by simp)]
  rfl

end WmConfig.Settings
