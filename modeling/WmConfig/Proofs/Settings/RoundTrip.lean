import WmConfig.Proofs.Settings.Agreement
import WmConfig.Proofs.Toml.Literal

/-! # Settings written and read again

How settings are written as a document: a header for each section with fields, a list header for
each entry, the entries in order, and the fields below a header in any order. Settings that are
written so are read again as they were (`settings_round_trip`). -/

namespace WmConfig.Settings

open Toml

/-! ### Tables -/

/-- The section `general` as a table. -/
def General.table (g : General) : Table :=
  [("border", .integer g.border.toNat), ("snap", .integer g.snap.toNat),
    ("resize_hints", .boolean g.resizeHints), ("opacity_unfocused", .integer g.opacityUnfocused),
    ("focus_move_pointer", .boolean g.focusMovePointer), ("font", .string g.font)]

/-- The section `colors` as a table. -/
def colorsTable (p : Palette String) : Table :=
  [("normal_border", .string p.normalBorder), ("normal_bg", .string p.normalBackground),
    ("normal_fg", .string p.normalForeground), ("focus_border", .string p.focusBorder),
    ("focus_bg", .string p.focusBackground), ("focus_fg", .string p.focusForeground)]

/-- The section `statusbar` as a table. -/
def Statusbar.table (s : Statusbar) : Table := [("position", .string s.position)]

/-- An entry of `tags.tag` as a table. -/
def Tag.table (t : Tag) : Table := [("title", .string t.title), ("layout", .string t.layout)]

/-- An entry of `layouts.layout` as a table. -/
def Layout.table (l : Layout) : Table := [("title", .string l.title), ("symbol", .string l.symbol)]

/-- The section `layouts` as a table, its list apart. -/
def Layouts.table (l : Layouts) : Table :=
  [("mwfact", .float l.mwfact), ("nmaster", .integer l.nmaster.toNat),
    ("ncol", .integer l.ncol.toNat)]

/-- An entry of `rules.rule` as a table. -/
def Rule.table (r : Rule) : Table :=
  [("name", .string r.name), ("tags", .string r.tags), ("float", .boolean r.float)]

/-- An entry of `keys.key` as a table; a missing argument is left out. -/
def Key.table (k : Key) : Table :=
  [("modkey", .array (k.modkey.map .string)), ("key", .string k.key),
    ("command", .string k.command)] ++ k.arg.toList.map fun arg => ("arg", .string arg)

/-- The section `keys` as a table, its list apart. -/
def Keys.table (k : Keys) : Table := [("modkey", .string k.modkey)]

namespace ListSection

/-- An entry as a table. -/
def table : (l : ListSection) → l.Entry → Table
  | tags => Tag.table
  | layouts => Layout.table
  | rules => Rule.table
  | keys => Key.table

/-- The fields of the section beside its list, if it has any. -/
def own : ListSection → Settings → Option Table
  | tags, _ => none
  | layouts, s => some s.layouts.table
  | rules, _ => none
  | keys, s => some s.keys.table

/-- The section as it is written. -/
def part (l : ListSection) (s : Settings) : Part :=
  ⟨l.name, l.own s, l.key, (l.listed s).map l.table⟩

end ListSection

/-- The sections as they are written. -/
def parts (s : Settings) : List Part :=
  [⟨"general", some s.general.table, "", []⟩, ⟨"colors", some (colorsTable s.colors), "", []⟩,
    ⟨"statusbar", some s.statusbar.table, "", []⟩, ListSection.tags.part s,
    ListSection.layouts.part s, ListSection.rules.part s, ListSection.keys.part s]

/-- The text writes the settings: the blocks of each section come in their order, though not
necessarily next to each other, and the lines of a block in any order. -/
def Written (s : Settings) (text : String) : Prop :=
  ∃ bs : List Block, Toml.Written (bs.flatMap Block.expressions) text.toList ∧
    (∀ b ∈ bs, b.header.top ∈ sectionNames) ∧
      ∀ p ∈ s.parts, ∃ q : Part, p.Shuffles q ∧ blocksAt p.name bs = q.blocks

/-! ### Tables read again -/

theorem word16?_toNat (n : UInt16) : word16? (.integer n.toNat) = some n := by
  have hn := n.toNat_lt
  rw [word16?, below?, int?, Option.filter_some_eq_some.mpr (by simp [UInt16.size]; omega)]
  simp

theorem word32?_toNat (n : UInt32) : word32? (.integer n.toNat) = some n := by
  have hn := n.toNat_lt
  rw [word32?, below?, int?, Option.filter_some_eq_some.mpr (by simp [UInt32.size]; omega)]
  simp

theorem decode_table_general (g : General) : General.decode? .asText g.table = some g := by
  simp [General.decode?, General.table, field?, Table.get?, List.lookup_cons, word16?_toNat, bool?,
    int?, text?]

theorem decode_table_colors (p : Palette String) : decodeColors? .asText (colorsTable p) = some p :=
  rfl

theorem decode_table_statusbar (s : Statusbar) : Statusbar.decode? .asText s.table = some s := rfl

theorem names?_texts (dates : Dates) (names : List String) :
    names? dates (.array (names.map .string)) = some names := by
  have hall : (names.map Value.string).mapM (text? dates) = some names := by
    rw [List.mapM_map]
    exact (mapM_eq_some_iff (P := fun _ => True) (g := id) (fun a b => by simp [text?, eq_comm])
      names names).mpr ⟨fun _ _ => trivial, by simp⟩
  exact hall

theorem decode_table_key (k : Key) : Key.decode? .asText k.table = some k := by
  obtain ⟨modkey, key, command, arg⟩ := k
  cases arg <;>
    simp [Key.decode?, Key.table, field?, Table.get?, List.lookup_cons, names?_texts, text?]

theorem ListSection.decode_table : ∀ (l : ListSection) (e : l.Entry), l.decode? (l.table e) = some e
  | .tags, _ => rfl
  | .layouts, _ => rfl
  | .rules, _ => rfl
  | .keys, k => decode_table_key k

/-- A decoder that goes by fields reads the same off tables with the same values. -/
theorem Fieldwise.decode_congr {α : Type} {decode? : Table → Option α} {required : List String}
    {fields : List Field} {best : Table → α} (R : Fieldwise decode? required fields best)
    {t t' : Table} (h : ∀ key, t.get? key = t'.get? key) : decode? t = decode? t' := by
  have hfits : ∀ f : Field, f.Fits t ↔ f.Fits t' := fun f => by rw [Field.Fits, Field.Fits, h]
  have hbest : best t = best t' := R.best_congr _ _ fun f _ => by rw [h]
  refine Option.ext fun a => ?_
  rw [R.decode_eq_some_iff, R.decode_eq_some_iff, hbest]
  simp only [h, hfits]

/-- Entries written in any order of their lines are complete, and are what can be read of them. -/
theorem ListSection.complete_of_perm (l : ListSection) : ∀ {es : List l.Entry} {ts : List Table},
    List.Forall₂ List.Perm (es.map l.table) ts → (∀ t ∈ es.map l.table, (t.map Prod.fst).Nodup) →
      (∀ t ∈ ts, l.Complete t) ∧ es = ts.map l.best
  | [], _, h, _ => by
    cases h
    simp
  | e :: es, _, h, hkeys => by
    cases h with
    | @cons _ t _ ts hperm hrest =>
      obtain ⟨hcomplete, hes⟩ :=
        l.complete_of_perm hrest fun t ht => hkeys t (List.mem_cons_of_mem _ ht)
      have hget : ∀ key, Table.get? t key = Table.get? (l.table e) key := fun key =>
        Table.get?_perm (hkeys _ List.mem_cons_self) hperm.symm
      have hdecode := (l.fieldwise.decode_congr hget).trans (l.decode_table e)
      obtain ⟨hreq, hfits, hbest⟩ := (l.fieldwise.decode_eq_some_iff t e).mp hdecode
      exact ⟨List.forall_mem_cons.mpr ⟨⟨hreq, hfits⟩, hcomplete⟩,
        by rw [List.map_cons, ← hbest, ← hes]⟩

/-! ### Sections read again -/

theorem withDates?_texts (names : List String) :
    (Value.array (names.map .string)).withDates? = some (.array (names.map .string)) := by
  rw [Value.withDates?, itemsWithDates?_eq_self]
  · rfl
  · intro v hv
    obtain ⟨name, -, rfl⟩ := List.mem_map.mp hv
    rfl

theorem ListSection.settled_table (l : ListSection) (e : l.Entry) : (l.table e).Settled := by
  cases l with
  | tags => constructor <;> simp [table, Tag.table, reservedDateKey, Value.withDates?]
  | layouts => constructor <;> simp [table, Layout.table, reservedDateKey, Value.withDates?]
  | rules => constructor <;> simp [table, Rule.table, reservedDateKey, Value.withDates?]
  | keys =>
    obtain ⟨modkey, key, command, arg⟩ := e
    refine ⟨by cases arg <;> simp [table, Key.table],
      by cases arg <;> simp [table, Key.table, reservedDateKey], ?_⟩
    change ∀ e ∈ Key.table ⟨modkey, key, command, arg⟩, e.2.withDates? = some e.2
    cases arg <;> simp only [Key.table, List.forall_mem_append, List.forall_mem_cons]
    · exact ⟨⟨withDates?_texts modkey, rfl, rfl, by simp⟩, by simp⟩
    · exact ⟨⟨withDates?_texts modkey, rfl, rfl, by simp⟩, List.forall_mem_singleton.mpr rfl⟩

theorem settled_general (g : General) : g.table.Settled := by
  constructor <;> simp [General.table, reservedDateKey, Value.withDates?]

theorem settled_colors (p : Palette String) : (colorsTable p).Settled := by
  constructor <;> simp [colorsTable, reservedDateKey, Value.withDates?]

theorem settled_statusbar (s : Statusbar) : s.table.Settled := by
  constructor <;> simp [Statusbar.table, reservedDateKey, Value.withDates?]

theorem ListSection.settled_own (l : ListSection) (s : Settings) :
    ((l.own s).getD []).Settled := by
  cases l with
  | tags => constructor <;> simp [own]
  | layouts => constructor <;> simp [own, Layouts.table, reservedDateKey, Value.withDates?]
  | rules => constructor <;> simp [own]
  | keys => constructor <;> simp [own, Keys.table, reservedDateKey, Value.withDates?]

/-- A section with a list can be written. -/
theorem ListSection.sound_part (l : ListSection) (s : Settings) : (l.part s).Sound := by
  refine ⟨l.settled_own s, ?_, ?_, fun t ht => ?_⟩
  · cases l <;> simp [part, own, ListSection.key, Layouts.table, Keys.table]
  · cases l <;> simp [part, ListSection.key, reservedDateKey]
  · obtain ⟨e, -, rfl⟩ := List.mem_map.mp ht
    exact l.settled_table e

/-- Every section can be written. -/
theorem sound_parts {s : Settings} : ∀ p ∈ s.parts, p.Sound := by
  -- A section without a list has its own fields only.
  have hown : ∀ (name : String) {t : Table}, t.Settled → "" ∉ t.map Prod.fst →
      Part.Sound ⟨name, some t, "", []⟩ :=
    fun name t ht hkey => ⟨ht, hkey, by simp [reservedDateKey], by simp⟩
  simp only [parts, List.forall_mem_cons]
  exact ⟨hown _ (settled_general _) (by simp [General.table]),
    hown _ (settled_colors _) (by simp [colorsTable]),
    hown _ (settled_statusbar _) (by simp [Statusbar.table]), ListSection.tags.sound_part s,
    ListSection.layouts.sound_part s, ListSection.rules.sound_part s,
    ListSection.keys.sound_part s, by simp⟩

/-- **A section of a document holds what was written**: its fields as they were, and its list, with
the lines of each entry in some order. -/
structure Holds (root : Table) (p : Part) : Prop where
  isSection : IsSection root p.name
  fields : ∀ key, key ≠ p.key → (tableOf root p.name).get? key = Table.get? (p.own.getD []) key
  list : ∃ ts, List.Forall₂ List.Perm p.items ts ∧ (tableOf root p.name).get? p.key =
    if ts.isEmpty then none else some (.array (ts.map .table))

theorem holds_of_value {root : Table} {p q : Part} (hp : p.Sound) (hpq : p.Shuffles q)
    (h : root.get? q.name = q.value?) : Holds root p := by
  rw [hpq.name] at h
  have hq := hp.shuffle hpq
  have htable : tableOf root p.name = q.table := by
    rw [tableOf, sectionAt?, h, Part.value?]
    split_ifs with hnone
    · obtain ⟨hown, hitems⟩ := (Bool.and_eq_true _ _).mp hnone
      rw [Part.table, Part.list, if_pos hitems, Option.isNone_iff_eq_none.mp hown]
      rfl
    · rfl
  refine ⟨fun v hv => ?_, fun key hkey => ?_, q.items, hpq.items, ?_⟩
  · rw [h, Part.value?] at hv
    split_ifs at hv
    exact ⟨_, (Option.some.inj hv).symm⟩
  · rw [htable, hq.get?_table, if_neg (by rwa [hpq.key])]
    exact Table.get?_perm hp.own.keys hpq.own_perm.symm
  · rw [htable, hq.get?_table, if_pos hpq.key.symm]

/-- A section without a list has the fields that were written. -/
theorem Holds.get? {root : Table} {p : Part} (h : Holds root p) (hp : p.Sound)
    (hitems : p.items = []) (key : String) :
    (tableOf root p.name).get? key = Table.get? (p.own.getD []) key := by
  by_cases hkey : key = p.key
  · obtain ⟨ts, hperm, hts⟩ := h.list
    rw [hitems, List.forall₂_nil_left_iff] at hperm
    rw [hkey, hts, hperm, Table.get?, lookup_eq_none_iff.mpr hp.key]
    rfl
  · exact h.fields key hkey

theorem strictSection?_eq_some {α : Type} {root : Table} {name : String}
    {decode? : Table → Option α} {default a : α} (hname : IsSection root name)
    (hdefault : decode? [] = some default) (h : decode? (tableOf root name) = some a) :
    strictSection? root name decode? default = some a := by
  rw [tableOf, sectionAt?] at h
  rw [strictSection?]
  cases hv : root.get? name with
  | none =>
    rw [hv] at h
    exact hdefault.symm.trans h
  | some v =>
    obtain ⟨t, rfl⟩ := hname v hv
    rw [hv] at h
    exact h

section Documents
variable {root : Table} {s : Settings} (hroot : ∀ p ∈ s.parts, Holds root p)
include hroot

theorem holds_list (l : ListSection) : Holds root (l.part s) := by
  refine hroot _ ?_
  cases l <;> simp [parts]

theorem ListSection.exists_tables (l : ListSection) :
    ∃ ts, List.Forall₂ List.Perm ((l.listed s).map l.table) ts ∧ valueAt? root l.name l.key =
      if ts.isEmpty then none else some (.array (ts.map .table)) := by
  obtain ⟨ts, hperm, hts⟩ := (holds_list hroot l).list
  exact ⟨ts, hperm, (get?_tableOf root l.name l.key).symm.trans hts⟩

/-- The lists of the document are arrays of tables. -/
theorem listsOfTables_of_holds : ListsOfTables root := by
  intro l v hv
  obtain ⟨ts, -, hts⟩ := l.exists_tables hroot
  rw [hts] at hv
  split_ifs at hv
  exact ⟨ts, (Option.some.inj hv).symm⟩

theorem ListSection.exists_items (l : ListSection) :
    ∃ ts : List Table, List.Forall₂ List.Perm ((l.listed s).map l.table) ts ∧
      l.items root = ts.map .table := by
  obtain ⟨ts, hperm, hts⟩ := l.exists_tables hroot
  refine ⟨ts, hperm, ?_⟩
  rcases items_eq (listsOfTables_of_holds hroot) l with ⟨hv, hitems⟩ | ⟨ts', hv, hitems⟩
  · rw [hts] at hv
    split_ifs at hv with hempty
    rw [hitems, List.isEmpty_iff.mp hempty]
    rfl
  · rw [hts] at hv
    split_ifs at hv
    rw [hitems]
    exact (Value.array.inj (Option.some.inj hv)).symm

/-- The titles of the document are texts. -/
theorem noDateTitle_of_holds : NoDateTitle root := by
  intro l htitled t ht d
  obtain ⟨ts, hperm, hitems⟩ := l.exists_items hroot
  rw [hitems] at ht
  obtain ⟨t', ht', heq⟩ := List.mem_map.mp ht
  obtain rfl := Value.table.inj heq
  obtain ⟨t₀, ht₀, hperm₀⟩ := Part.exists_of_mem_right hperm t' ht'
  obtain ⟨e, -, rfl⟩ := List.mem_map.mp ht₀
  rw [Table.get?_perm (l.settled_table e).keys hperm₀.symm]
  cases l with
  | tags => exact fun h => by cases h
  | layouts => exact fun h => by cases h
  | rules => cases htitled
  | keys => cases htitled

/-- The list of a section, read as a whole, is the list that was written. -/
theorem ListSection.field?_list (l : ListSection) :
    field? (tableOf root l.name) l.key l.strict? [] = some (l.listed s) := by
  obtain ⟨ts, hperm, hts⟩ := l.exists_tables hroot
  have hkeys : ∀ t ∈ (l.listed s).map l.table, (t.map Prod.fst).Nodup := by
    intro t ht
    obtain ⟨e, -, rfl⟩ := List.mem_map.mp ht
    exact (l.settled_table e).keys
  obtain ⟨hcomplete, hes⟩ := l.complete_of_perm hperm hkeys
  rw [field?, get?_tableOf, hts]
  split_ifs with hempty
  · rw [List.isEmpty_iff.mp hempty] at hes
    exact congrArg some hes.symm
  · exact (l.strict?_array_eq_some_iff ts _).mpr ⟨hcomplete, hes⟩

/-- A section without a list is there with the fields that were written. -/
theorem fields_of_holds {name : String} {t : Table} (hp : ⟨name, some t, "", []⟩ ∈ s.parts) :
    IsSection root name ∧ ∀ key, (tableOf root name).get? key = t.get? key :=
  ⟨(hroot _ hp).isSection, (hroot _ hp).get? (sound_parts _ hp) rfl⟩

theorem layouts_of_holds :
    Layouts.decode? .asText (tableOf root "layouts") = some s.layouts := by
  have hlist : field? (tableOf root "layouts") "layout" (layouts? .asText) [] =
      some s.layouts.layout := ListSection.layouts.field?_list hroot
  have hfields : ∀ key, key ≠ "layout" → (tableOf root "layouts").get? key =
      Table.get? s.layouts.table key := (holds_list hroot .layouts).fields
  have hmwfact : field? (tableOf root "layouts") "mwfact" float? defaultMwfact =
      some s.layouts.mwfact := by
    rw [field?, hfields "mwfact" (by decide)]
    rfl
  have hnmaster : field? (tableOf root "layouts") "nmaster" word32? 1 =
      some s.layouts.nmaster := by
    rw [field?, hfields "nmaster" (by decide)]
    exact word32?_toNat _
  have hncol : field? (tableOf root "layouts") "ncol" word32? 1 = some s.layouts.ncol := by
    rw [field?, hfields "ncol" (by decide)]
    exact word32?_toNat _
  simp only [Layouts.decode?, hlist, hmwfact, hnmaster, hncol, Option.bind_eq_bind,
    Option.bind_some]
  rfl

theorem keys_of_holds : Keys.decode? .asText (tableOf root "keys") = some s.keys := by
  have hlist : field? (tableOf root "keys") "key" (keys? .asText) [] = some s.keys.key :=
    ListSection.keys.field?_list hroot
  have hfields : ∀ key, key ≠ "key" → (tableOf root "keys").get? key =
      Table.get? s.keys.table key := (holds_list hroot .keys).fields
  have hmodkey : field? (tableOf root "keys") "modkey" (text? .asText) "Mod4" =
      some s.keys.modkey := by
    rw [field?, hfields "modkey" (by decide)]
    rfl
  simp only [Keys.decode?, hlist, hmodkey, Option.bind_eq_bind, Option.bind_some]
  rfl

/-- **What was written is what strict reading gives.** -/
theorem strict?_of_holds : strict? root = some s := by
  obtain ⟨hgeneral, hgeneral'⟩ :=
    fields_of_holds hroot (show ⟨"general", some s.general.table, "", []⟩ ∈ s.parts by simp [parts])
  obtain ⟨hcolors, hcolors'⟩ :=
    fields_of_holds hroot
      (show ⟨"colors", some (colorsTable s.colors), "", []⟩ ∈ s.parts by simp [parts])
  obtain ⟨hstatusbar, hstatusbar'⟩ :=
    fields_of_holds hroot
      (show ⟨"statusbar", some s.statusbar.table, "", []⟩ ∈ s.parts by simp [parts])
  have hlist : ∀ l : ListSection, IsSection root l.name := fun l => (holds_list hroot l).isSection
  have general : strictSection? root "general" (General.decode? .asText) {} = some s.general :=
    strictSection?_eq_some hgeneral rfl
      (((General.fieldwise .asText).decode_congr hgeneral').trans (decode_table_general _))
  have colors : strictSection? root "colors" (decodeColors? .asText) defaultColors =
      some s.colors :=
    strictSection?_eq_some hcolors rfl
      (((fieldwise_colors .asText).decode_congr hcolors').trans (decode_table_colors _))
  have statusbar : strictSection? root "statusbar" (Statusbar.decode? .asText) {} =
      some s.statusbar :=
    strictSection?_eq_some hstatusbar rfl
      (((Statusbar.fieldwise .asText).decode_congr hstatusbar').trans (decode_table_statusbar _))
  have tags : strictSection? root "tags" (decodeTags? .asText) [] = some s.tags :=
    strictSection?_eq_some (hlist .tags) rfl (ListSection.tags.field?_list hroot)
  have layouts : strictSection? root "layouts" (Layouts.decode? .asText) {} = some s.layouts :=
    strictSection?_eq_some (hlist .layouts) rfl (layouts_of_holds hroot)
  have rules : strictSection? root "rules" (decodeRules? .asText) [] = some s.rules :=
    strictSection?_eq_some (hlist .rules) rfl (ListSection.rules.field?_list hroot)
  have keys : strictSection? root "keys" (Keys.decode? .asText) {} = some s.keys :=
    strictSection?_eq_some (hlist .keys) rfl (keys_of_holds hroot)
  simp only [strict?, general, colors, statusbar, tags, layouts, rules, keys,
    Option.bind_eq_bind, Option.bind_some]
  rfl

end Documents

/-! ### Written documents -/

/-- A document that writes the settings is one in which each section holds what was written. -/
theorem Written.exists_document {s : Settings} {text : String} (h : s.Written text) :
    ∃ root, document? text = some root ∧ ∀ p ∈ s.parts, Holds root p := by
  obtain ⟨bs, hwritten, htop, hparts⟩ := h
  choose! shuffled hshuffles hblocks using hparts
  have htop' : ∀ b ∈ bs, ∃ q ∈ s.parts.map shuffled, b.header.top = q.name := by
    intro b hb
    have hname : b.header.top ∈ s.parts.map Part.name := htop b hb
    obtain ⟨p, hp, hpname⟩ := List.mem_map.mp hname
    exact ⟨shuffled p, List.mem_map_of_mem hp, by rw [(hshuffles p hp).name, hpname]⟩
  have hparts' : ∀ q ∈ s.parts.map shuffled, q.Sound ∧ blocksAt q.name bs = q.blocks := by
    intro q hq
    obtain ⟨p, hp, rfl⟩ := List.mem_map.mp hq
    exact ⟨(sound_parts p hp).shuffle (hshuffles p hp), by rw [(hshuffles p hp).name, hblocks p hp]⟩
  obtain ⟨root, hroot, hvalues⟩ := Toml.exists_document (parse?_written hwritten) htop' hparts'
  exact ⟨root, hroot, fun p hp => holds_of_value (sound_parts p hp) (hshuffles p hp)
    (hvalues _ (List.mem_map_of_mem hp))⟩

/-! ### What can be written -/

theorem ListSection.writable_table (l : ListSection) (e : l.Entry) : (l.table e).Writable := by
  cases l with
  | tags =>
    simp only [table, Tag.table, Table.Writable, List.forall_mem_cons]
    exact ⟨⟨by decide, writable_string _⟩, ⟨by decide, writable_string _⟩, by simp⟩
  | layouts =>
    simp only [table, Layout.table, Table.Writable, List.forall_mem_cons]
    exact ⟨⟨by decide, writable_string _⟩, ⟨by decide, writable_string _⟩, by simp⟩
  | rules =>
    simp only [table, Rule.table, Table.Writable, List.forall_mem_cons]
    exact ⟨⟨by decide, writable_string _⟩, ⟨by decide, writable_string _⟩,
      ⟨by decide, writable_boolean _⟩, by simp⟩
  | keys =>
    simp only [table, Key.table, Table.Writable, List.forall_mem_append, List.forall_mem_cons,
      List.forall_mem_map]
    exact ⟨⟨⟨by decide, writable_texts _⟩, ⟨by decide, writable_string _⟩,
      ⟨by decide, writable_string _⟩, by simp⟩, fun _ _ => ⟨by decide, writable_string _⟩⟩

theorem writable_word16 (n : UInt16) : (Value.integer n.toNat).Writable :=
  writable_natural (Nat.lt_trans n.toNat_lt (by decide))

theorem writable_word32 (n : UInt32) : (Value.integer n.toNat).Writable :=
  writable_natural (Nat.lt_trans n.toNat_lt (by decide))

theorem writable_general {g : General} (hnonneg : 0 ≤ g.opacityUnfocused)
    (hle : g.opacityUnfocused ≤ 100) : g.table.Writable := by
  have hopacity : (Value.integer g.opacityUnfocused).Writable := by
    obtain ⟨n, hn⟩ := Int.eq_ofNat_of_zero_le hnonneg
    rw [hn] at hle ⊢
    exact writable_natural (by omega)
  simp only [General.table, Table.Writable, List.forall_mem_cons]
  exact ⟨⟨by decide, writable_word16 _⟩, ⟨by decide, writable_word16 _⟩,
    ⟨by decide, writable_boolean _⟩, ⟨by decide, hopacity⟩, ⟨by decide, writable_boolean _⟩,
    ⟨by decide, writable_string _⟩, by simp⟩

theorem writable_colors (p : Palette String) : (colorsTable p).Writable := by
  simp only [colorsTable, Table.Writable, List.forall_mem_cons]
  exact ⟨⟨by decide, writable_string _⟩, ⟨by decide, writable_string _⟩,
    ⟨by decide, writable_string _⟩, ⟨by decide, writable_string _⟩,
    ⟨by decide, writable_string _⟩, ⟨by decide, writable_string _⟩, by simp⟩

theorem writable_statusbar (s : Statusbar) : s.table.Writable := by
  simp only [Statusbar.table, Table.Writable, List.forall_mem_cons]
  exact ⟨⟨by decide, writable_string _⟩, by simp⟩

theorem ListSection.writable_own {s : Settings} (hs : InRange s) (l : ListSection) :
    ∀ t ∈ l.own s, t.Writable := by
  cases l with
  | tags => rintro t ⟨⟩
  | layouts =>
    rintro t ⟨⟩
    simp only [Layouts.table, Table.Writable, List.forall_mem_cons]
    exact ⟨⟨by decide, writable_share hs.mwfact_pos hs.mwfact_le⟩, ⟨by decide, writable_word32 _⟩,
      ⟨by decide, writable_word32 _⟩, by simp⟩
  | rules => rintro t ⟨⟩
  | keys =>
    rintro t ⟨⟩
    simp only [Keys.table, Table.Writable, List.forall_mem_cons]
    exact ⟨⟨by decide, writable_string _⟩, by simp⟩

theorem ListSection.writable_part {s : Settings} (hs : InRange s) (l : ListSection) :
    (l.part s).Writable := by
  have hname : Bare l.name := by cases l <;> decide
  have hkey : Bare l.key := by cases l <;> decide
  refine ⟨hname, l.writable_own hs, fun t ht => ⟨hkey, ?_⟩⟩
  obtain ⟨e, -, rfl⟩ := List.mem_map.mp ht
  exact l.writable_table e

/-- Settings in range can be written section by section. -/
theorem writable_parts {s : Settings} (hs : InRange s) : ∀ p ∈ s.parts, p.Writable := by
  have hown : ∀ (name : String) {t : Table}, Bare name → t.Writable →
      Part.Writable ⟨name, some t, "", []⟩ := by
    intro name t hname ht
    refine ⟨hname, ?_, by simp⟩
    rintro _ ⟨⟩
    exact ht
  simp only [parts, List.forall_mem_cons]
  exact ⟨hown "general" (by decide) (writable_general hs.opacity_nonneg hs.opacity_le),
    hown "colors" (by decide) (writable_colors _),
    hown "statusbar" (by decide) (writable_statusbar _), ListSection.tags.writable_part hs,
    ListSection.layouts.writable_part hs, ListSection.rules.writable_part hs,
    ListSection.keys.writable_part hs, by simp⟩

/-- Settings in range can be written. -/
theorem exists_written {s : Settings} (hs : InRange s) : ∃ text, s.Written text := by
  obtain ⟨cs, hcs⟩ := Toml.exists_written (writable_parts hs)
  refine ⟨String.ofList cs, s.parts.flatMap Part.blocks, by rwa [String.toList_ofList],
    fun b hb => ?_, fun p hp => ⟨p, .refl p, ?_⟩⟩
  · obtain ⟨p, hp, hb⟩ := List.mem_flatMap.mp hb
    have hname : b.header.top = p.name := p.top_blocks b hb
    rw [hname]
    exact List.mem_map_of_mem hp (f := Part.name)
  · have hnames : (s.parts.map Part.name).Nodup := by
      change sectionNames.Nodup
      decide
    exact blocksAt_flatMap hnames p hp

/-! ### Round trip -/

/-- **Settings are read back as they were written.** Settings with the opacity and the share of the
master area in range can be written, and however they are written, reading gives the very same
settings and reports nothing. -/
theorem settings_round_trip {s : Settings} (hs : InRange s) :
    (∃ text, s.Written text) ∧ ∀ text, s.Written text → parse text = ⟨s, []⟩ := by
  refine ⟨exists_written hs, fun text h => ?_⟩
  obtain ⟨root, hroot, hparts⟩ := h.exists_document
  rw [parse_of_document hroot]
  exact ofTable_eq_of_strict (keysOnce_of_document hroot) (listsOfTables_of_holds hparts)
    (strict?_of_holds hparts) hs (noDateTitle_of_holds hparts)

/-- Settings with entries, and with characters that have to be escaped. -/
theorem settings_round_trip_entries :
    ∃ text, parse text =
      ⟨{ general := { opacityUnfocused := 60, font := "a\"b\\c\n" }
         tags := [{ title := "" }, { title := "\u00e9" }]
         keys := { key := [{ modkey := ["Mod4", "Shift"], arg := some "x" }] } }, []⟩ := by
  have hs : InRange { general := { opacityUnfocused := 60, font := "a\"b\\c\n" }
                      tags := [{ title := "" }, { title := "\u00e9" }]
                      keys := { key := [{ modkey := ["Mod4", "Shift"], arg := some "x" }] } } :=
    ⟨by decide, by decide, inRange_default.mwfact_pos, inRange_default.mwfact_le⟩
  obtain ⟨⟨text, htext⟩, hparse⟩ := settings_round_trip hs
  exact ⟨text, hparse text htext⟩

end WmConfig.Settings
