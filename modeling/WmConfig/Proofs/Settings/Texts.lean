import WmConfig.Proofs.Settings.Apart

/-! # Texts from the file to their fields

A text can be spelled in many ways, and each gives the same text in the settings: the field holds
just the text, nothing is reported of it, and the rest of what is read and reported does not depend
on it (`texts_stored`). A spelling with an escape for no character is a fault of the whole file.

A place for a text is a field of a section, or a field of an entry of a list (`TextPlace`). Two
probes tell which place a gap in a document is: it is this one if the place holds whatever of two
texts is written there (`TextPlace.Surrounds`). -/

namespace WmConfig.Settings

open Toml Toml.Syntax Toml.Quoted

/-! ### Places for texts -/

/-- The fields of the sections that take a text. -/
inductive TextField where
  /-- The field `font` of the section `general`. -/
  | font
  /-- The field `normal_border` of the section `colors`. -/
  | normalBorder
  /-- The field `normal_bg` of the section `colors`. -/
  | normalBackground
  /-- The field `normal_fg` of the section `colors`. -/
  | normalForeground
  /-- The field `focus_border` of the section `colors`. -/
  | focusBorder
  /-- The field `focus_bg` of the section `colors`. -/
  | focusBackground
  /-- The field `focus_fg` of the section `colors`. -/
  | focusForeground
  /-- The field `position` of the section `statusbar`. -/
  | position
  /-- The field `modkey` of the section `keys`. -/
  | modkey
deriving DecidableEq

namespace TextField

/-- The section of the field. -/
def home : TextField → FieldSection
  | font => .general
  | normalBorder | normalBackground | normalForeground => .colors
  | focusBorder | focusBackground | focusForeground => .colors
  | position => .statusbar
  | modkey => .keys

/-- The key of the field. -/
def key : TextField → String
  | font => "font"
  | normalBorder => "normal_border"
  | normalBackground => "normal_bg"
  | normalForeground => "normal_fg"
  | focusBorder => "focus_border"
  | focusBackground => "focus_bg"
  | focusForeground => "focus_fg"
  | position => "position"
  | modkey => "modkey"

/-- The text in the field. -/
def get (s : Settings) : TextField → String
  | font => s.general.font
  | normalBorder => s.colors.normalBorder
  | normalBackground => s.colors.normalBackground
  | normalForeground => s.colors.normalForeground
  | focusBorder => s.colors.focusBorder
  | focusBackground => s.colors.focusBackground
  | focusForeground => s.colors.focusForeground
  | position => s.statusbar.position
  | modkey => s.keys.modkey

/-- The settings with a text in the field. -/
def set (text : String) (s : Settings) : TextField → Settings
  | font => { s with general := { s.general with font := text } }
  | normalBorder => { s with colors := { s.colors with normalBorder := text } }
  | normalBackground => { s with colors := { s.colors with normalBackground := text } }
  | normalForeground => { s with colors := { s.colors with normalForeground := text } }
  | focusBorder => { s with colors := { s.colors with focusBorder := text } }
  | focusBackground => { s with colors := { s.colors with focusBackground := text } }
  | focusForeground => { s with colors := { s.colors with focusForeground := text } }
  | position => { s with statusbar := { s.statusbar with position := text } }
  | modkey => { s with keys := { s.keys with modkey := text } }

end TextField

/-- The settings with another list of entries. -/
def ListSection.edit : (l : ListSection) → (List l.Entry → List l.Entry) → Settings → Settings
  | tags, change, s => { s with tags := change s.tags }
  | layouts, change, s => { s with layouts := { s.layouts with layout := change s.layouts.layout } }
  | rules, change, s => { s with rules := change s.rules }
  | keys, change, s => { s with keys := { s.keys with key := change s.keys.key } }

/-- The fields of the entries that take a text. -/
inductive EntryField where
  /-- The field `title` of an entry of `tags.tag`. -/
  | tagTitle
  /-- The field `layout` of an entry of `tags.tag`. -/
  | tagLayout
  /-- The field `title` of an entry of `layouts.layout`. -/
  | layoutTitle
  /-- The field `symbol` of an entry of `layouts.layout`. -/
  | layoutSymbol
  /-- The field `name` of an entry of `rules.rule`. -/
  | ruleName
  /-- The field `tags` of an entry of `rules.rule`. -/
  | ruleTags
  /-- The field `modkey` of an entry of `keys.key`, where a text stands for a list of one. -/
  | keyModkey
  /-- The field `key` of an entry of `keys.key`. -/
  | keyName
  /-- The field `command` of an entry of `keys.key`. -/
  | keyCommand
  /-- The field `arg` of an entry of `keys.key`. -/
  | keyArg
deriving DecidableEq

namespace EntryField

/-- The list of the entry. -/
def list : EntryField → ListSection
  | tagTitle | tagLayout => .tags
  | layoutTitle | layoutSymbol => .layouts
  | ruleName | ruleTags => .rules
  | keyModkey | keyName | keyCommand | keyArg => .keys

/-- The field with the values that it takes. -/
def field : EntryField → Field
  | tagTitle | layoutTitle => .of "title" (text? .asText)
  | tagLayout => .of "layout" (text? .asText)
  | layoutSymbol => .of "symbol" (text? .asText)
  | ruleName => .of "name" (text? .asText)
  | ruleTags => .of "tags" (text? .asText)
  | keyModkey => .of "modkey" (names? .asText)
  | keyName => .of "key" (text? .asText)
  | keyCommand => .of "command" (text? .asText)
  | keyArg => .of "arg" (arg? .asText)

/-- The entry has just the text in the field. -/
def Stores (text : String) : (f : EntryField) → f.list.Entry → Prop
  | tagTitle => fun (e : Tag) => e.title = text
  | tagLayout => fun (e : Tag) => e.layout = text
  | layoutTitle => fun (e : Layout) => e.title = text
  | layoutSymbol => fun (e : Layout) => e.symbol = text
  | ruleName => fun (e : Rule) => e.name = text
  | ruleTags => fun (e : Rule) => e.tags = text
  | keyModkey => fun (e : Key) => e.modkey = [text]
  | keyName => fun (e : Key) => e.key = text
  | keyCommand => fun (e : Key) => e.command = text
  | keyArg => fun (e : Key) => e.arg = some text

/-- The entry with a text in the field. -/
def put (text : String) : (f : EntryField) → f.list.Entry → f.list.Entry
  | tagTitle => fun (e : Tag) => ({ e with title := text } : Tag)
  | tagLayout => fun (e : Tag) => ({ e with layout := text } : Tag)
  | layoutTitle => fun (e : Layout) => ({ e with title := text } : Layout)
  | layoutSymbol => fun (e : Layout) => ({ e with symbol := text } : Layout)
  | ruleName => fun (e : Rule) => ({ e with name := text } : Rule)
  | ruleTags => fun (e : Rule) => ({ e with tags := text } : Rule)
  | keyModkey => fun (e : Key) => ({ e with modkey := [text] } : Key)
  | keyName => fun (e : Key) => ({ e with key := text } : Key)
  | keyCommand => fun (e : Key) => ({ e with command := text } : Key)
  | keyArg => fun (e : Key) => ({ e with arg := some text } : Key)

end EntryField

/-- A place for a text: a field of a section, or a field of the entry with an index among those of
a list that are kept. -/
inductive TextPlace where
  /-- A field of a section. -/
  | field (f : TextField)
  /-- A field of an entry. -/
  | entry (f : EntryField) (index : Nat)

namespace TextPlace

/-- The document has the text in the place. -/
def Holds (text : String) (root : Table) : TextPlace → Prop
  | field f => valueAt? root f.home.name f.key = some (.string text)
  | entry f index => ∃ t, (f.list.keptTables root)[index]? = some t ∧
      t.get? f.field.key = some (.string text)

/-- The settings have just the text in the place. -/
def Stores (text : String) (s : Settings) : TextPlace → Prop
  | field f => f.get s = text
  | entry f index => ∃ e, (f.list.listed s)[index]? = some e ∧ f.Stores text e

/-- The settings with a text in the place. -/
def set (text : String) (s : Settings) : TextPlace → Settings
  | field f => f.set text s
  | entry f index => f.list.edit (·.modify index (f.put text)) s

/-- What is reported of a value in the place that does not fit. -/
def warning : TextPlace → Warning
  | field f => .fieldInvalid f.home.name f.key
  | entry f _ => .fieldInvalid f.list.path f.field.key

/-- How often the same is reported of other places: a field of a section is reported once at most,
and a field of the entries as often as it does not fit in one. -/
def reportedElsewhere (root : Table) : TextPlace → Nat
  | field _ => 0
  | entry f index => ((f.list.keptTables root).eraseIdx index).countP fun t =>
      (t.get? f.field.key).any fun v => !f.field.fits v

/-- **The texts before and after a place**: the first one leads up to a value, the second one does
not start with a quote, and of two texts written in between the place holds the one that is. -/
structure Surrounds (p : TextPlace) (before after : String) : Prop where
  leads : LeadsUp (joinLineEnds (skipMark before.toList))
  unquoted : Unquoted after.toList
  empty : ∃ root, document? (before ++ "''" ++ after) = some root ∧ p.Holds "" root
  dash : ∃ root, document? (before ++ "'-'" ++ after) = some root ∧ p.Holds "-" root

end TextPlace

/-! ### Fields of sections -/

namespace TextField

theorem field_mem (f : TextField) : Field.of f.key (text? .asText) ∈ f.home.schema := by
  cases f <;> simp [key, home, FieldSection.schema, General.schema, colorsSchema, Statusbar.schema]

theorem not_isList (f : TextField) : ¬ IsList f.home.name f.key := by
  cases f <;> decide

/-- A field that takes a text takes any. -/
theorem fits {f : TextField} {g : Field} (hg : g ∈ f.home.schema) (hkey : g.key = f.key)
    (s : String) : g.fits (.string s) = true := by
  obtain rfl := List.inj_on_of_nodup_map f.home.keys_schema hg f.field_mem hkey
  rfl

theorem get_set (f : TextField) (text : String) (s : Settings) : f.get (f.set text s) = text := by
  cases f <;> rfl

section Documents
variable {root root' : Table} {s s' : String}

/-- What is read of a document with a text in a field. -/
theorem value_eq (f : TextField) (h : DiffersAt f.home.name f.key root root')
    (hs : valueAt? root' f.home.name f.key = some (.string s))
    (honce : (Value.table root).KeysOnce) (honce' : (Value.table root').KeysOnce) :
    (ofTable root').value = f.set s (ofTable root).value := by
  have hhere : ∀ default, fieldAt root' f.home.name f.key (text? .asText) default = s := by
    intro default
    rw [fieldAt, hs]
    rfl
  have hother : ∀ {α : Type} {k : String} {read? : Value → Option α} {default : α}, k ≠ f.key →
      fieldAt root' f.home.name k read? default = fieldAt root f.home.name k read? default :=
    fun hk => h.fieldAt_eq (fun _ => hk) _ _
  refine (value_ofTable_eq h.others).trans ?_
  cases f <;> simp only [key, home, FieldSection.name] at hhere hother
  case font =>
    simp [withSection, home, FieldSection.name, general_ofTable honce', hhere, hother,
      general_ofTable honce, set]
  case position =>
    simp [withSection, home, FieldSection.name, statusbar_ofTable honce', hhere, set]
  case modkey =>
    have hlist := h.listed_eq (l := .keys) (fun _ => by decide) honce honce'
    simp [withSection, home, FieldSection.name, keys_ofTable honce', hhere, hlist,
      keys_ofTable honce, set]
  all_goals
    simp [withSection, home, FieldSection.name, colors_ofTable honce', hhere, hother,
      colors_ofTable honce, set]

/-- What is reported of a document does not depend on a text in a field. -/
theorem defects_eq (f : TextField) (h : DiffersAt f.home.name f.key root root')
    (hs : valueAt? root f.home.name f.key = some (.string s))
    (hs' : valueAt? root' f.home.name f.key = some (.string s')) :
    defects root' = defects root := by
  refine h.defects_eq (fun home hhome g hg hkey => ?_) (fun l hname hkey => ?_)
    (fun hname => ?_) (fun hname => ?_)
  · obtain rfl := FieldSection.name_inj hhome
    rw [hs, hs', Option.any_some, Option.any_some, fits hg hkey, fits hg hkey]
  · exact absurd ⟨l, hname, hkey⟩ f.not_isList
  · revert hname
    cases f <;> decide
  · revert hname
    cases f <;> decide

/-- Nothing is reported of a text in a field. -/
theorem count_defects (f : TextField) (hs : valueAt? root f.home.name f.key = some (.string s)) :
    (defects root).count (.fieldInvalid f.home.name f.key) = 0 := by
  rw [show f.key = (Field.of f.key (text? .asText)).key from rfl,
    FieldSection.count_fieldInvalid f.home root f.field_mem, Field.of, hs]
  rfl

end Documents

end TextField

/-! ### Fields of entries -/

namespace EntryField

theorem field_mem (f : EntryField) : f.field ∈ f.list.schema := by
  cases f <;> simp [field, list, ListSection.schema, Tag.schema, Layout.schema, Rule.schema,
    Key.schema]

/-- A field that takes a text takes any. -/
theorem fits {f : EntryField} {g : Field} (hg : g ∈ f.list.schema) (hkey : g.key = f.field.key)
    (s : String) : g.fits (.string s) = true := by
  obtain rfl := List.inj_on_of_nodup_map f.list.fieldwise.keys hg f.field_mem hkey
  cases f <;> rfl

theorem stores_put (f : EntryField) (text : String) (e : f.list.Entry) :
    f.Stores text (f.put text e) := by
  cases f <;> rfl

/-- What is read of an entry with a text in a field. -/
theorem best_eq (f : EntryField) {t t' : Table} {s : String}
    (hothers : ∀ k, k ≠ f.field.key → t'.get? k = t.get? k)
    (hs : t'.get? f.field.key = some (.string s)) : f.list.best t' = f.put s (f.list.best t) := by
  have hhere : ∀ {α : Type} (read? : Value → Option α) (default : α),
      fieldOr t' f.field.key read? default = (read? (.string s)).getD default := by
    intro α read? default
    rw [fieldOr, hs]
    rfl
  have hother : ∀ {α : Type} {k : String} (read? : Value → Option α) (default : α),
      k ≠ f.field.key → fieldOr t' k read? default = fieldOr t k read? default := by
    intro α k read? default hk
    rw [fieldOr, fieldOr, hothers k hk]
  cases f <;>
    simp only [field, Field.of] at hhere hother <;>
    simp [ListSection.best, list, Tag.best, Layout.best, Rule.best, Key.best, put, hhere, hother,
      text?, names?, arg?] <;>
    rfl

end EntryField

section Documents
variable {root root' : Table} {s s' : String}

/-- What is read of a document with another list. -/
theorem ListSection.value_eq (l : ListSection) (h : DiffersAt l.name l.key root root')
    (honce : (Value.table root).KeysOnce) (honce' : (Value.table root').KeysOnce)
    {change : List l.Entry → List l.Entry}
    (hlist : l.listed (ofTable root').value = change (l.listed (ofTable root).value)) :
    (ofTable root').value = l.edit change (ofTable root).value := by
  have hother : ∀ {α : Type} {k : String} {read? : Value → Option α} {default : α}, k ≠ l.key →
      fieldAt root' l.name k read? default = fieldAt root l.name k read? default :=
    fun hk => h.fieldAt_eq (fun _ => hk) _ _
  refine (value_ofTable_eq h.others).trans ?_
  cases l <;> simp only [name, key] at hother
  case tags | rules =>
    simp only [listed] at hlist
    simp [withSection, name, hlist, edit]
  case layouts =>
    simp [withSection, name, layouts_ofTable honce', hlist, hother, layouts_ofTable honce, edit]
  case keys =>
    simp [withSection, name, keys_ofTable honce', hlist, hother, keys_ofTable honce, edit]

/-! ### Places -/

theorem exists_of_rel {α β : Type} {R : α → β → Prop} {o : Option α} {o' : Option β} {a : α}
    (h : Option.Rel R o o') (ha : o = some a) : ∃ b, o' = some b ∧ R a b := by
  subst ha
  cases h with
  | some h => exact ⟨_, rfl, h⟩

theorem eq_or_eq_of_apart {v : Value} (h : (Value.string s).Apart s s' v) :
    v = .string s ∨ v = .string s' := by
  cases h with
  | same => exact .inl rfl
  | text => exact .inr rfl

/-- A text that differs from both probes is the one in which the documents differ. -/
theorem eq_text_of_apart {v : Value} (hempty : (Value.string "").Apart "" s v)
    (hdash : (Value.string "-").Apart "-" s v) : v = .string s := by
  rcases eq_or_eq_of_apart hempty with rfl | rfl
  · exact (eq_or_eq_of_apart hdash).resolve_left (by simp)
  · rfl

namespace TextPlace

/-- **Where the probes are**, there is any other text. -/
theorem holds_of_apart (p : TextPlace) {rootEmpty rootDash : Table}
    (hempty : p.Holds "" rootEmpty) (hdash : p.Holds "-" rootDash)
    (hrootEmpty : rootEmpty.Apart "" s root) (hrootDash : rootDash.Apart "-" s root) :
    p.Holds s root := by
  cases p with
  | field f =>
    obtain ⟨v, hv, hrel⟩ := exists_of_rel (valueAt?_apart hrootEmpty _ _) hempty
    obtain ⟨v', hv', hrel'⟩ := exists_of_rel (valueAt?_apart hrootDash _ _) hdash
    obtain rfl := Option.some.inj (hv.symm.trans hv')
    rw [eq_text_of_apart hrel hrel'] at hv
    exact hv
  | entry f index =>
    obtain ⟨t₀, ht₀, hget₀⟩ := hempty
    obtain ⟨t₁, ht₁, hget₁⟩ := hdash
    obtain ⟨t, ht, hrel⟩ := (keptTables_apart hrootEmpty f.list).getElem? (fun _ => .same _) ht₀
    obtain ⟨t', ht', hrel'⟩ := (keptTables_apart hrootDash f.list).getElem? (fun _ => .same _) ht₁
    obtain rfl := Option.some.inj (ht.symm.trans ht')
    obtain ⟨v, hv, hv₀⟩ := exists_of_rel (get?_apart hrel _) hget₀
    obtain ⟨v', hv', hv₁⟩ := exists_of_rel (get?_apart hrel' _) hget₁
    obtain rfl := Option.some.inj (hv.symm.trans hv')
    rw [eq_text_of_apart hv₀ hv₁] at hv
    exact ⟨t, ht, hv⟩

/-- **With another text in a place**, the settings have this text there, and the rest of what is
read and reported is the same. -/
theorem ofTable_eq (p : TextPlace) (h : root.Apart s s' root') (hs : p.Holds s root)
    (hs' : p.Holds s' root') (honce : (Value.table root).KeysOnce)
    (honce' : (Value.table root').KeysOnce) :
    ofTable root' = ⟨p.set s' (ofTable root).value, (ofTable root).warnings⟩ := by
  have hparts : (ofTable root').value = p.set s' (ofTable root).value ∧
      defects root' = defects root := by
    cases p with
    | field f =>
      have hdiffers := differsAt_of_text h hs hs'
      exact ⟨f.value_eq hdiffers hs' honce honce', f.defects_eq hdiffers hs hs'⟩
    | entry f index =>
      obtain ⟨t, ht, hget⟩ := hs
      obtain ⟨t', ht', hget'⟩ := hs'
      have hswapped := swapped_of_text h ht ht' hget hget'
      refine ⟨f.list.value_eq hswapped.differs honce honce' ?_, hswapped.defects_eq ?_⟩
      · exact hswapped.listed_eq honce honce' (f.best_eq hswapped.others hget')
      · intro g hg hkey
        rw [hget, hget', Option.any_some, Option.any_some, EntryField.fits hg hkey,
          EntryField.fits hg hkey]
  rw [show ofTable root' = ⟨(ofTable root').value, (ofTable root').warnings⟩ from rfl, hparts.1,
    warnings_ofTable honce', warnings_ofTable honce, hparts.2]

/-- **The settings have the text of the document.** -/
theorem stores_of_holds (p : TextPlace) (hs : p.Holds s root)
    (honce : (Value.table root).KeysOnce) : p.Stores s (ofTable root).value := by
  cases p with
  | field f =>
    have hset := congrArg Reported.value (ofTable_eq (.field f) (.same root) hs hs honce honce)
    rw [hset]
    exact f.get_set s _
  | entry f index =>
    obtain ⟨t, ht, hget⟩ := hs
    refine ⟨f.list.best t, ?_, ?_⟩
    · rw [listed_ofTable honce, List.getElem?_map, ht, Option.map_some]
    · rw [f.best_eq (fun _ _ => rfl) hget]
      exact f.stores_put s _

/-- **Nothing is reported of the text**, only of other places. -/
theorem count_warning (p : TextPlace) (hs : p.Holds s root) :
    (defects root).count p.warning = p.reportedElsewhere root := by
  cases p with
  | field f => exact f.count_defects hs
  | entry f index =>
    obtain ⟨t, ht, hget⟩ := hs
    obtain ⟨hindex, rfl⟩ := List.getElem?_eq_some_iff.mp ht
    have hkept : ∀ misfit : Table → Bool,
        ((f.list.items root).countP fun item => (keptTable? f.list.titled item).any misfit) =
          (f.list.keptTables root).countP misfit := by
      intro misfit
      rw [ListSection.keptTables, List.countP_filterMap]
      refine List.countP_congr fun item _ => ?_
      cases keptTable? f.list.titled item <;> simp
    rw [warning, ListSection.count_fieldInvalid f.list root f.field_mem, hkept,
      ← (List.getElem_cons_eraseIdx_perm hindex).countP_eq, List.countP_cons_of_neg]
    · rfl
    · rw [hget, Option.any_some, EntryField.fits f.field_mem rfl]
      decide

end TextPlace

end Documents

/-! ### Spellings -/

/-- **Spellings of a text agree**, in every place that takes a text: however the text is spelled, the
settings have just this text there, nothing is reported of it, and the rest of what is read and
reported is what it is for an empty text. An escape for no character is a fault of the whole file. -/
theorem texts_stored (p : TextPlace) {before after : String} (h : p.Surrounds before after) :
    (∀ s lit : String, Spelling s.toList (joinLineEnds lit.toList) →
      parse (before ++ lit ++ after) = ⟨p.set s (parse (before ++ "''" ++ after)).value,
        (parse (before ++ "''" ++ after)).warnings⟩ ∧
      p.Stores s (parse (before ++ lit ++ after)).value ∧
      ∃ root, document? (before ++ lit ++ after) = some root ∧ p.Holds s root ∧
        (parse (before ++ lit ++ after)).warnings.count p.warning = p.reportedElsewhere root) ∧
    ∀ tail : String, Misspelling (joinLineEnds tail.toList) →
      parse (before ++ tail) = ⟨{}, [.malformed]⟩ := by
  obtain ⟨rootEmpty, hrootEmpty, hempty⟩ := h.empty
  obtain ⟨rootDash, hrootDash, hdash⟩ := h.dash
  refine ⟨fun s lit hlit => ?_, fun tail htail => parse_of_none (document?_eq_none h.leads htail)⟩
  have hspellEmpty : Spelling "".toList (joinLineEnds "''".toList) := .literal nofun
  have hspellDash : Spelling "-".toList (joinLineEnds "'-'".toList) :=
    @Spelling.literal ['-'] (by simp [isText])
  obtain ⟨root, hroot, hrelEmpty⟩ :=
    exists_apart h.leads hspellEmpty hlit h.unquoted (by decide) hrootEmpty
  obtain ⟨root', hroot', hrelDash⟩ :=
    exists_apart h.leads hspellDash hlit h.unquoted (by decide) hrootDash
  obtain rfl := Option.some.inj (hroot.symm.trans hroot')
  have hs := p.holds_of_apart hempty hdash hrelEmpty hrelDash
  have honce := keysOnce_of_document hroot
  rw [parse_of_document hroot, parse_of_document hrootEmpty]
  refine ⟨p.ofTable_eq hrelEmpty hempty hs (keysOnce_of_document hrootEmpty) honce,
    p.stores_of_holds hs honce, root, hroot, hs, ?_⟩
  rw [warnings_ofTable honce, p.count_warning hs]

/-- The pattern of a rule with a backslash and quotes in it, over three lines, and one with half of a
surrogate pair. -/
theorem texts_stored_rule :
    parse "[[rules.rule]]\nname = \"\"\"\n\\\\d \\\n  \"x\"\"\"\"\n" =
        ⟨{ rules := [{ name := "\\d \"x\"" }] }, []⟩ ∧
      parse "[[rules.rule]]\nname = \"\\ud800\"\n" = ⟨{}, [.malformed]⟩ := by
  have hempty : document? "[[rules.rule]]\nname = ''\n" =
      some [("rules", .table [("rule", .array [.table [("name", .string "")]])])] := by
    decide +kernel
  have hdash : document? "[[rules.rule]]\nname = '-'\n" =
      some [("rules", .table [("rule", .array [.table [("name", .string "-")]])])] := by
    decide +kernel
  have hread : parse "[[rules.rule]]\nname = ''\n" = ⟨{ rules := [{ name := "" }] }, []⟩ := by
    have hrange : InRange { rules := [{ name := "" }] } :=
      ⟨by decide, by decide, inRange_default.mwfact_pos, inRange_default.mwfact_le⟩
    rw [parse_of_document hempty]
    refine ofTable_eq_of_strict (keysOnce_of_document hempty) (fun l v hv => ?_) rfl hrange
      fun l htitled t ht d => ?_
    · cases l with
      | tags => cases hv
      | layouts => cases hv
      | rules => exact ⟨[[("name", .string "")]], (Option.some.inj hv).symm⟩
      | keys => cases hv
    · cases l with
      | tags => cases ht
      | layouts => cases ht
      | rules => cases htitled
      | keys => cases htitled
  have hleads : LeadsUp (joinLineEnds (skipMark "[[rules.rule]]\nname = ".toList)) := by
    rw [show joinLineEnds (skipMark "[[rules.rule]]\nname = ".toList) =
      "[[rules.rule]]".toList ++ '\n' :: "name = ".toList by decide +kernel]
    have hheader : expressions? "[[rules.rule]]".toList =
        some [.header ⟨["rules"], "rule", true⟩] := by decide +kernel
    have hkey : assigned? (skipBlanks "name = ".toList) = some (([], "name"), []) := by
      decide +kernel
    exact .after hheader (.line hkey (.here _))
  have hplace : TextPlace.Surrounds (.entry .ruleName 0) "[[rules.rule]]\nname = " "\n" :=
    { leads := hleads
      unquoted := by simp [Unquoted]
      empty := ⟨_, hempty, _, rfl, rfl⟩
      dash := ⟨_, hdash, _, rfl, rfl⟩ }
  obtain ⟨hspelled, hfault⟩ := texts_stored _ hplace
  have hlines : SpellsLines '\x22' (List.replicate 4 '\x22') ['\\', 'd', ' ', '\x22', 'x']
      (['\\', '\\', 'd', ' ', '\\', '\n', ' ', ' ', '\x22', 'x'] ++ List.replicate 4 '\x22') :=
    @SpellsLines.escape _ _ '\\' _ ['\\', '\\'] _ rfl (.letter (by decide))
      (.plain (by simp [isText]) (by decide) (by decide)
        (.plain (by simp [isText]) (by decide) (by decide)
          (@SpellsLines.lineEnd _ _ _ ['\n', ' ', ' '] _ rfl (by simp [isSwallowed])
            (by decide) (by rintro _ ⟨⟩; decide)
            (.plain (by simp [isText]) (by decide) (by decide)
              (.plain (by simp [isText]) (by decide) (by decide) .nil)))))
  have hspelling : Spelling "\\d \"x\"".toList
      (joinLineEnds "\"\"\"\n\\\\d \\\n  \"x\"\"\"\"".toList) :=
    @Spelling.lines '\x22' 1 _ ('\n' :: _) (.inl rfl) (by decide) hlines
  have hmisspelling : Misspelling (joinLineEnds "\"\\ud800\"\n".toList) := by
    refine .basic .nil (.four fun c hc => ?_) ['\x22', '\n']
    have hvalid : Nat.isValidChar c.toNat := c.valid
    rw [← Option.some.inj ((show Numeral.value? 16 _ = some 0xd800 by decide).symm.trans hc)]
      at hvalid
    exact absurd hvalid (by decide)
  have hstored := (hspelled _ _ hspelling).1
  rw [show parse ("[[rules.rule]]\nname = " ++ "''" ++ "\n") = _ from hread] at hstored
  exact ⟨hstored, hfault _ hmisspelling⟩

end WmConfig.Settings
