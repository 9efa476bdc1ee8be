import WmConfig.Proofs.Settings.Sections

/-! # The entries of the lists

Four sections hold a list: `tags.tag`, `layouts.layout`, `rules.rule` and `keys.key`. Of the items
of a list those that are tables are kept, and in a titled list only those with a text as title;
each is read field by field, like a section. `entries_kept_in_order` states that the list that is
built holds just the kept items, in order, and that no item makes a difference to another. -/

namespace WmConfig.Settings

open Toml

/-- The lists of a configuration file. -/
inductive ListSection where
  /-- The list `tags.tag`. -/
  | tags
  /-- The list `layouts.layout`. -/
  | layouts
  /-- The list `rules.rule`. -/
  | rules
  /-- The list `keys.key`. -/
  | keys

namespace ListSection

/-- The name of the section. -/
def name : ListSection → String
  | tags => "tags"
  | layouts => "layouts"
  | rules => "rules"
  | keys => "keys"

/-- The key of the list in its section. -/
def key : ListSection → String
  | tags => "tag"
  | layouts => "layout"
  | rules => "rule"
  | keys => "key"

/-- Whether an entry needs a title. -/
def titled : ListSection → Bool
  | tags => true
  | layouts => true
  | rules => false
  | keys => false

/-- What an entry is. -/
def Entry : ListSection → Type
  | tags => Tag
  | layouts => Layout
  | rules => Rule
  | keys => Key

/-- The fields of an entry. -/
def schema : ListSection → List Field
  | tags => Tag.schema .asText
  | layouts => Layout.schema .asText
  | rules => Rule.schema .asText
  | keys => Key.schema .asText

/-- The decoder of an entry. -/
def decode? : (l : ListSection) → Table → Option l.Entry
  | tags => Tag.decode? .asText
  | layouts => Layout.decode? .asText
  | rules => Rule.decode? .asText
  | keys => Key.decode? .asText

/-- What can be read of an entry. -/
def best : (l : ListSection) → Table → l.Entry
  | tags => Tag.best .asText
  | layouts => Layout.best .asText
  | rules => Rule.best .asText
  | keys => Key.best .asText

/-- The entries in the settings. -/
def listed : (l : ListSection) → Settings → List l.Entry
  | tags, s => s.tags
  | layouts, s => s.layouts.layout
  | rules, s => s.rules
  | keys, s => s.keys.key

/-- The keys that an entry is never tried without. -/
def required (l : ListSection) : List String := if l.titled then ["title"] else []

theorem fieldwise : ∀ l : ListSection, Fieldwise l.decode? l.required l.schema l.best
  | tags => Tag.fieldwise .asText
  | layouts => Layout.fieldwise .asText
  | rules => Rule.fieldwise .asText
  | keys => Key.fieldwise .asText

/-- A title that is a text fits. -/
theorem fits_title (l : ListSection) {f : Field} (hf : f ∈ l.schema) (hkey : f.key ∈ l.required)
    (s : String) : f.fits (.string s) = true := by
  cases l with
  | tags =>
    rcases List.mem_pair.mp hf with rfl | rfl <;> rfl
  | layouts =>
    rcases List.mem_pair.mp hf with rfl | rfl <;> rfl
  | rules => simp [required, titled] at hkey
  | keys => simp [required, titled] at hkey

/-- The items of the list in a document: the members of an array, or a single value; none if the
section or the list is missing, or the section is no table. -/
def items (l : ListSection) (root : Table) : List Value := itemsOf (sectionAt? root l.name) l.key

end ListSection

/-- The table of an item that is kept: in a titled list its title has to be a text. -/
def keptTable? (titled : Bool) (item : Value) : Option Table :=
  item.table?.filter fun t => !titled || (Table.get? t "title").any Value.isString

/-! ### One entry -/

theorem keptTable?_eq_some_iff {titled : Bool} {item : Value} {t : Table} :
    keptTable? titled item = some t ↔
      item = .table t ∧ (titled = true → ∃ s, t.get? "title" = some (.string s)) := by
  have hstring : ∀ v : Value, v.isString = true ↔ ∃ s, v = .string s := by
    intro v
    cases v <;> simp [Value.isString]
  unfold keptTable?
  rw [Option.filter_eq_some_iff]
  refine and_congr ?_ ?_
  · cases item <;> simp [Value.table?]
  · cases titled
    · simp
    · cases t.get? "title" <;> simp [hstring]

/-- An entry that is kept has what it needs. -/
theorem fits_required {l : ListSection} {item : Value} {t : Table}
    (h : keptTable? l.titled item = some t) :
    (∀ k ∈ l.required, (t.get? k).isSome) ∧ ∀ f ∈ l.schema, f.key ∈ l.required → f.Fits t := by
  obtain ⟨-, htitle⟩ := keptTable?_eq_some_iff.mp h
  have hstring : ∀ k ∈ l.required, ∃ s, t.get? k = some (.string s) := by
    intro k hk
    unfold ListSection.required at hk
    split_ifs at hk with htitled
    · rw [List.mem_singleton.mp hk]
      exact htitle htitled
    · simp at hk
  refine ⟨fun k hk => ?_, fun f hf hkey v hv => ?_⟩
  · obtain ⟨s, hs⟩ := hstring k hk
    rw [hs]; rfl
  · obtain ⟨s, hs⟩ := hstring f.key hkey
    rw [hs] at hv
    rw [← Option.some.inj hv]
    exact l.fits_title hf hkey s

/-- An item that is not kept is reported, one that is kept is read leniently. -/
theorem entry_eq (l : ListSection) (path : String) (item : Value) (index : Nat) :
    (∃ w, entry l.decode? path l.titled (item, index) = ⟨none, [w]⟩ ∧
        keptTable? l.titled item = none) ∨
      ∃ t, keptTable? l.titled item = some t ∧
        ∀ e, (lenient? l.decode? path l.required t).value = some e →
          entry l.decode? path l.titled (item, index) =
            ⟨some e, (lenient? l.decode? path l.required t).warnings⟩ := by
  cases item with
  | table t =>
    by_cases hskip : (l.titled && !(Table.get? t "title").any Value.isString) = true
    · refine Or.inl ⟨.entryUntitled path index, ?_, ?_⟩
      · simp only [entry, hskip, if_true]
      · rw [keptTable?, Value.table?, Option.filter_some_eq_none]
        simpa using hskip
    · refine Or.inr ⟨t, ?_, ?_⟩
      · rw [keptTable?, Value.table?, Option.filter_some_eq_some]
        revert hskip
        cases l.titled <;> simp
      · intro e he
        unfold ListSection.required at he ⊢
        simp only [entry, hskip, bind, he]
        simp
  | _ => exact Or.inl ⟨_, rfl, rfl⟩

theorem value_entry (l : ListSection) {item : Value} (honce : item.KeysOnce) (path : String)
    (index : Nat) :
    (entry l.decode? path l.titled (item, index)).value =
      (keptTable? l.titled item).map l.best := by
  rcases entry_eq l path item index with ⟨w, hentry, hkept⟩ | ⟨t, hkept, hentry⟩
  · rw [hentry, hkept]; rfl
  · obtain ⟨rfl, -⟩ := keptTable?_eq_some_iff.mp hkept
    obtain ⟨hreq, hfits⟩ := fits_required hkept
    cases honce with
    | table keys =>
      rw [hentry _ (l.fieldwise.lenient_value keys hreq hfits path), hkept]
      rfl

/-- An entry is reported unless it is kept and all its fields fit. -/
theorem warnings_entry_eq_nil (l : ListSection) {item : Value} (honce : item.KeysOnce)
    (path : String) (index : Nat) :
    (entry l.decode? path l.titled (item, index)).warnings = [] ↔
      ∃ t, keptTable? l.titled item = some t ∧ ∀ f ∈ l.schema, f.Fits t := by
  rcases entry_eq l path item index with ⟨w, hentry, hkept⟩ | ⟨t, hkept, hentry⟩
  · simp [hentry, hkept]
  · obtain ⟨rfl, -⟩ := keptTable?_eq_some_iff.mp hkept
    obtain ⟨hreq, hfits⟩ := fits_required hkept
    cases honce with
    | table keys =>
      rw [hentry _ (l.fieldwise.lenient_value keys hreq hfits path), hkept]
      simp [l.fieldwise.warnings_lenient_eq_nil keys hreq hfits path]

/-! ### The lists of a document -/

theorem filterMap_zipIdx {α β : Type} (f : α → Option β) :
    ∀ (l : List α) (i : Nat), (l.zipIdx i).filterMap (fun p => f p.1) = l.filterMap f
  | [], _ => rfl
  | a :: l, i => by
    rw [List.zipIdx_cons, List.filterMap_cons, List.filterMap_cons, filterMap_zipIdx f l (i + 1)]

theorem keysOnce_items {root : Table} (h : (Value.table root).KeysOnce) (l : ListSection) :
    ∀ v ∈ l.items root, v.KeysOnce := by
  intro v hv
  unfold ListSection.items itemsOf at hv
  cases ht : sectionAt? root l.name with
  | none => simp [ht] at hv
  | some t =>
    rw [ht, Option.bind_some] at hv
    cases keysOnce_section h ht with
    | table keys values =>
      cases hitems : Table.get? t l.key with
      | none => simp [hitems] at hv
      | some w =>
        have hw : w.KeysOnce := values _ ((lookup_eq_some_iff keys).mp hitems)
        rw [hitems] at hv
        cases w with
        | array items =>
          cases hw with
          | array hall => exact hall v hv
        | _ => rwa [List.mem_singleton.mp hv]

/-- How a list is read. -/
def ListSection.read (l : ListSection) (root : Table) : Reported (List l.Entry) :=
  entries l.decode? l.name l.key l.titled (sectionTable root l.name).value

theorem listed_sections_eq_read (root : Table) (l : ListSection) :
    l.listed (sections root).value = (l.read root).value := by
  cases l <;> rfl

theorem read_eq (l : ListSection) (root : Table) :
    l.read root = Reported.filterMap (entry l.decode? (l.name ++ "." ++ l.key) l.titled)
      (l.items root).zipIdx := by
  unfold ListSection.read entries
  rw [value_sectionTable]
  rfl

/-- The lists of a document before the ranges are checked. -/
theorem listed_sections {root : Table} (h : (Value.table root).KeysOnce) (l : ListSection) :
    l.listed (sections root).value =
      (l.items root).filterMap fun item => (keptTable? l.titled item).map l.best := by
  rw [listed_sections_eq_read, read_eq, Reported.value_filterMap,
    ← filterMap_zipIdx (fun item => (keptTable? l.titled item).map l.best) _ 0]
  refine List.filterMap_congr fun p hp => ?_
  exact value_entry l (keysOnce_items h l p.1 (List.fst_mem_of_mem_zipIdx hp)) _ p.2

/-- A list is read without a report iff each item is kept and all its fields fit. -/
theorem warnings_read_eq_nil {root : Table} (h : (Value.table root).KeysOnce) (l : ListSection) :
    (l.read root).warnings = [] ↔
      ∀ item ∈ l.items root, ∃ t, keptTable? l.titled item = some t ∧ ∀ f ∈ l.schema, f.Fits t := by
  rw [read_eq, Reported.warnings_filterMap, List.flatMap_eq_nil_iff]
  constructor
  · intro hall item hitem
    obtain ⟨i, hi⟩ := List.getElem?_of_mem hitem
    exact (warnings_entry_eq_nil l (keysOnce_items h l item hitem) _ i).mp
      (hall (item, i) (List.mem_zipIdx_iff_getElem?.mpr hi))
  · intro hall p hp
    have hitem := List.fst_mem_of_mem_zipIdx hp
    exact (warnings_entry_eq_nil l (keysOnce_items h l p.1 hitem) _ p.2).mpr (hall p.1 hitem)

theorem listed_inRange (s : Settings) (l : ListSection) :
    l.listed (inRange s).value = l.listed s := by
  cases l <;> rfl

/-- **Entries are kept in order.** A list of the settings holds what can be read of each item that
is kept, once each and in the order of the items; so the list for the items of one document
followed by those of another is the one list followed by the other. -/
theorem entries_kept_in_order {text : String} {root : Table} (h : document? text = some root)
    (l : ListSection) :
    l.listed (parse text).value =
        (l.items root).filterMap (fun item => (keptTable? l.titled item).map l.best) ∧
      ∀ text₁ root₁ text₂ root₂, document? text₁ = some root₁ → document? text₂ = some root₂ →
        l.items root = l.items root₁ ++ l.items root₂ →
          l.listed (parse text).value =
            l.listed (parse text₁).value ++ l.listed (parse text₂).value := by
  have hlisted : ∀ {text root}, document? text = some root → l.listed (parse text).value =
      (l.items root).filterMap (fun item => (keptTable? l.titled item).map l.best) := by
    intro text root h
    rw [parse_of_document h, ofTable, Reported.value_bind, listed_inRange,
      listed_sections (keysOnce_of_document h)]
  refine ⟨hlisted h, fun text₁ root₁ text₂ root₂ h₁ h₂ hitems => ?_⟩
  rw [hlisted h, hlisted h₁, hlisted h₂, hitems, List.filterMap_append]

/-- A list with an item without title and one with a field that does not fit, in one document and
shared out between two. -/
theorem entries_kept_in_order_tags :
    (parse ("[[tags.tag]]\ntitle = 'a'\n" ++
          "[[tags.tag]]\nlayout = 'b'\n[[tags.tag]]\ntitle = 'c'\nlayout = 7\n")).value.tags =
        [{ title := "a", layout := "tile" }, { title := "c", layout := "tile" }] ∧
      (parse ("[[tags.tag]]\ntitle = 'a'\n" ++
          "[[tags.tag]]\nlayout = 'b'\n[[tags.tag]]\ntitle = 'c'\nlayout = 7\n")).value.tags =
        (parse "[[tags.tag]]\ntitle = 'a'\n").value.tags ++
          (parse
            "[[tags.tag]]\nlayout = 'b'\n[[tags.tag]]\ntitle = 'c'\nlayout = 7\n").value.tags := by
  have h₁ : document? "[[tags.tag]]\ntitle = 'a'\n" =
      some [("tags", .table [("tag", .array [.table [("title", .string "a")]])])] := by
    decide +kernel
  have h₂ : document? "[[tags.tag]]\nlayout = 'b'\n[[tags.tag]]\ntitle = 'c'\nlayout = 7\n" =
      some [("tags", .table [("tag", .array [.table [("layout", .string "b")],
        .table [("title", .string "c"), ("layout", .integer 7)]])])] := by decide +kernel
  have h : document? ("[[tags.tag]]\ntitle = 'a'\n" ++
      "[[tags.tag]]\nlayout = 'b'\n[[tags.tag]]\ntitle = 'c'\nlayout = 7\n") =
        some [("tags", .table [("tag", .array [.table [("title", .string "a")],
          .table [("layout", .string "b")],
          .table [("title", .string "c"), ("layout", .integer 7)]])])] := by decide +kernel
  exact ⟨(entries_kept_in_order h .tags).1.trans rfl,
    (entries_kept_in_order h .tags).2 _ _ _ _ h₁ h₂ rfl⟩

end WmConfig.Settings
