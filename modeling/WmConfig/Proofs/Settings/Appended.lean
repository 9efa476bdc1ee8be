import WmConfig.Proofs.Settings.Reports
import WmConfig.Proofs.Toml.Appended

/-! # Settings of appended documents

What is read of a section depends on that section of the document only (`ReadsOnly`). So if a
document follows another one that shares no key with it, each section is the one of the document
that has it, and the reports of both are raised (`sections_of_either`). -/

namespace WmConfig.Settings

open Toml

/-! ### One section at a time -/

/-- What depends on one section of a document only. -/
def ReadsOnly {α : Type} (name : String) (read : Table → α) : Prop :=
  ∀ ⦃root root' : Table⦄, root.get? name = root'.get? name → read root = read root'

namespace ReadsOnly

variable {α β : Type} {name : String} {read : Table → α}

theorem comp (h : ReadsOnly name read) (f : α → β) : ReadsOnly name fun root => f (read root) :=
  fun _ _ hget => congrArg f (h hget)

theorem sectionTable (name : String) : ReadsOnly name (sectionTable · name) :=
  fun root root' hget => by simp only [Settings.sectionTable, hget]

theorem sectionAt (name : String) : ReadsOnly name (sectionAt? · name) :=
  fun root root' hget => by simp only [sectionAt?, hget]

theorem notTable (name : String) : ReadsOnly name (notTable · name) :=
  fun root root' hget => by simp only [Settings.notTable, hget]

theorem fieldAt (name key : String) (read? : Value → Option α) (default : α) :
    ReadsOnly name (fieldAt · name key read? default) :=
  (sectionAt name).comp fun t => ((t.bind (Table.get? · key)).bind read?).getD default

theorem fieldDefects (s : FieldSection) : ReadsOnly s.name s.defects :=
  (sectionAt s.name).comp fun t =>
    (misfits s.schema (t.getD [])).map (Warning.fieldInvalid s.name)

theorem listDefects (l : ListSection) : ReadsOnly l.name l.defects :=
  (sectionAt l.name).comp fun t => (itemsOf t l.key).zipIdx.flatMap l.itemDefects

/-- **The document that has the section decides**, when one document stands after the other. -/
theorem append (h : ReadsOnly name read) (root₁ root₂ : Table) : read (root₁ ++ root₂) =
    if name ∈ root₁.keys then read root₁ else if name ∈ root₂.keys then read root₂ else read [] := by
  have hnone : ∀ {root : Table}, name ∉ root.keys → root.get? name = none := lookup_eq_none_iff.mpr
  split_ifs with h₁ h₂
  · refine h ?_
    obtain ⟨v, hv⟩ := Option.isSome_iff_exists.mp
      (Option.isSome_iff_ne_none.mpr (mt lookup_eq_none_iff.mp (not_not_intro h₁)))
    rw [Table.get?_append, show root₁.get? name = some v from hv, Option.some_or]
  · refine h ?_
    rw [Table.get?_append, hnone h₁, Option.none_or]
  · refine h ?_
    rw [Table.get?_append, hnone h₁, hnone h₂]
    rfl

end ReadsOnly

/-! ### The sections -/

theorem value_ofTable_nil : (ofTable []).value = {} := by
  rw [ofTable, Reported.value_bind, show (sections []).value = {} from rfl]
  exact value_inRange inRange_default

namespace ReadsOnly

theorem general : ReadsOnly "general" fun root => (ofTable root).value.general :=
  (sectionTable "general").comp fun t =>
    let general := (scalars (General.decode? .asText) {} "general" [] t.value).value
    { general with opacityUnfocused := clampOpacity general.opacityUnfocused }

theorem colors : ReadsOnly "colors" fun root => (ofTable root).value.colors :=
  (sectionTable "colors").comp fun t =>
    (scalars (decodeColors? .asText) defaultColors "colors" [] t.value).value

theorem statusbar : ReadsOnly "statusbar" fun root => (ofTable root).value.statusbar :=
  (sectionTable "statusbar").comp fun t =>
    (scalars (Statusbar.decode? .asText) {} "statusbar" [] t.value).value

theorem tags : ReadsOnly "tags" fun root => (ofTable root).value.tags :=
  (sectionTable "tags").comp fun t =>
    (entries (Tag.decode? .asText) "tags" "tag" true t.value).value

theorem layouts : ReadsOnly "layouts" fun root => (ofTable root).value.layouts :=
  (sectionTable "layouts").comp fun t =>
    let layouts := (scalars (Layouts.decode? .asText) {} "layouts" ["layout"] t.value).value
    { layouts with
      layout := (entries (Layout.decode? .asText) "layouts" "layout" true t.value).value
      mwfact := if isShare layouts.mwfact then layouts.mwfact else defaultMwfact }

theorem rules : ReadsOnly "rules" fun root => (ofTable root).value.rules :=
  (sectionTable "rules").comp fun t =>
    (entries (Rule.decode? .asText) "rules" "rule" false t.value).value

theorem keys : ReadsOnly "keys" fun root => (ofTable root).value.keys :=
  (sectionTable "keys").comp fun t =>
    { (scalars (Keys.decode? .asText) {} "keys" ["key"] t.value).value with
      key := (entries (Key.decode? .asText) "keys" "key" false t.value).value }

end ReadsOnly

/-- Each section as the document that has it gives it, or else the default. -/
def ofEither (root₁ root₂ : Table) (s₁ s₂ : Settings) : Settings where
  general := choose "general" s₁.general s₂.general {}
  colors := choose "colors" s₁.colors s₂.colors defaultColors
  statusbar := choose "statusbar" s₁.statusbar s₂.statusbar {}
  tags := choose "tags" s₁.tags s₂.tags []
  layouts := choose "layouts" s₁.layouts s₂.layouts {}
  rules := choose "rules" s₁.rules s₂.rules []
  keys := choose "keys" s₁.keys s₂.keys {}
where
  /-- What the document with the given section says. -/
  choose {α : Type} (name : String) (first second default : α) : α :=
    if name ∈ root₁.keys then first else if name ∈ root₂.keys then second else default

theorem value_ofTable_append (root₁ root₂ : Table) : (ofTable (root₁ ++ root₂)).value =
    ofEither root₁ root₂ (ofTable root₁).value (ofTable root₂).value := by
  have hsection : ∀ {α : Type} {name : String} (part : Settings → α),
      ReadsOnly name (fun root => part (ofTable root).value) →
        part (ofTable (root₁ ++ root₂)).value = ofEither.choose root₁ root₂ name
          (part (ofTable root₁).value) (part (ofTable root₂).value) (part {}) := by
    intro α name part h
    rw [h.append root₁ root₂, value_ofTable_nil]
    rfl
  have hfields : ∀ s : Settings,
      s = ⟨s.general, s.colors, s.statusbar, s.tags, s.layouts, s.rules, s.keys⟩ := fun _ => rfl
  rw [hfields (ofTable (root₁ ++ root₂)).value, hsection general .general,
    hsection colors .colors, hsection statusbar .statusbar, hsection tags .tags,
    hsection layouts .layouts, hsection rules .rules, hsection keys .keys]
  rfl

/-! ### The reports -/

/-- A part of what is reported of a document, with the name of the section it is about. -/
structure Report where
  /-- The name of the section. -/
  name : String
  /-- What is reported of a document. -/
  ofDocument : Table → List Warning

namespace Report

/-- That the section is no table. -/
def kind (name : String) : Report := ⟨name, (notTable · name)⟩

/-- The fields of the section that do not fit. -/
def fields (s : FieldSection) : Report := ⟨s.name, s.defects⟩

/-- What is wrong with the entries of the section. -/
def list (l : ListSection) : Report := ⟨l.name, l.defects⟩

/-- That the opacity is out of its range. -/
def opacity : Report := ⟨"general", fun root =>
  outOfRange (fieldAt root "general" "opacity_unfocused" int? 100) defaultMwfact⟩

/-- That the share of the master area is out of its range. -/
def mwfact : Report := ⟨"layouts", fun root =>
  outOfRange 100 (fieldAt root "layouts" "mwfact" float? defaultMwfact)⟩

/-- All that is reported of a document, in order. -/
def all : List Report :=
  [kind "tags", kind "layouts", kind "rules", kind "keys",
    kind "general", fields .general, kind "colors", fields .colors,
    kind "statusbar", fields .statusbar, list .tags, list .layouts, fields .layouts,
    list .rules, list .keys, fields .keys, opacity, mwfact]

/-- It is about its section only, and nothing is reported without the section. -/
structure Alone (report : Report) : Prop where
  readsOnly : ReadsOnly report.name report.ofDocument
  nil : report.ofDocument [] = []

end Report

theorem outOfRange_default : outOfRange 100 defaultMwfact = [] :=
  (warnings_inRange {}).symm.trans (warnings_inRange_eq_nil.mpr inRange_default)

/-- The two ranges are checked apart. -/
theorem outOfRange_eq (opacity : Int) (mwfact : Binary64) :
    outOfRange opacity mwfact = outOfRange opacity defaultMwfact ++ outOfRange 100 mwfact := by
  have hdefault : (if defaultMwfact.toRat?.any fun q => 0 < q ∧ q ≤ 1 then []
      else [Warning.mwfactReplaced defaultMwfact defaultMwfact]) = [] := outOfRange_default
  rw [outOfRange, outOfRange, outOfRange, hdefault, List.append_nil]
  rfl

theorem defects_eq_flatMap (root : Table) :
    defects root = Report.all.flatMap fun report => report.ofDocument root := by
  rw [defects, outOfRange_eq]
  simp only [Report.all, List.flatMap_cons, List.flatMap_nil, List.append_nil, List.append_assoc]
  rfl

theorem Report.alone : ∀ report ∈ all, Alone report := by
  have hkind : ∀ name, Alone (kind name) := fun name => ⟨.notTable name, rfl⟩
  have hfields : ∀ s, Alone (fields s) := fun s => ⟨.fieldDefects s, congrArg _ (misfits_nil _)⟩
  have hlist : ∀ l, Alone (list l) := fun l => ⟨.listDefects l, rfl⟩
  have hopacity : Alone opacity :=
    ⟨(ReadsOnly.fieldAt _ _ _ _).comp (outOfRange · defaultMwfact), outOfRange_default⟩
  have hmwfact : Alone mwfact :=
    ⟨(ReadsOnly.fieldAt _ _ _ _).comp (outOfRange 100 ·), outOfRange_default⟩
  simp only [all, List.forall_mem_cons]
  exact ⟨hkind _, hkind _, hkind _, hkind _, hkind _, hfields _, hkind _, hfields _, hkind _,
    hfields _, hlist _, hlist _, hfields _, hlist _, hlist _, hfields _, hopacity, hmwfact,
    fun _ h => absurd h List.not_mem_nil⟩

/-- **What is reported of both documents.** -/
theorem defects_append {root₁ root₂ : Table} (hkeys : ∀ key ∈ root₁.keys, key ∉ root₂.keys) :
    (defects (root₁ ++ root₂)).Perm (defects root₁ ++ defects root₂) := by
  have hreport : ∀ report ∈ Report.all, report.ofDocument (root₁ ++ root₂) =
      report.ofDocument root₁ ++ report.ofDocument root₂ := by
    intro report hmem
    have halone := Report.alone report hmem
    have hmissing : ∀ root : Table, report.name ∉ root.keys → report.ofDocument root = [] := by
      intro root h
      have hget : root.get? report.name = Table.get? [] report.name := lookup_eq_none_iff.mpr h
      exact (halone.readsOnly hget).trans halone.nil
    rw [halone.readsOnly.append root₁ root₂]
    split_ifs with h₁ h₂
    · rw [hmissing root₂ (hkeys _ h₁), List.append_nil]
    · rw [hmissing root₁ h₁, List.nil_append]
    · rw [hmissing root₁ h₁, hmissing root₂ h₂, halone.nil]
      rfl
  rw [defects_eq_flatMap, defects_eq_flatMap, defects_eq_flatMap, List.flatMap_congr hreport]
  exact (List.flatMap_append_perm _ _ _).symm

/-! ### Texts -/

/-- **Appended sections are read as before.** If a document starts with a header and shares no key
with another one, and its text follows the text of that one on lines of its own, each section is the
one that the document with that section gives, and the reports are those of both. -/
theorem sections_of_either {text₁ text₂ : String} {root₁ root₂ : Table}
    (h₁ : document? text₁ = some root₁) (h₂ : document? text₂ = some root₂)
    (hheader : StartsWithHeader text₂) (hmark : text₂.toList.head? ≠ some '\ufeff')
    (hkeys : ∀ key ∈ root₁.keys, key ∉ root₂.keys) :
    (parse (text₁ ++ "\n" ++ text₂)).value =
        ofEither root₁ root₂ (parse text₁).value (parse text₂).value ∧
      (parse (text₁ ++ "\n" ++ text₂)).warnings.Perm
        ((parse text₁).warnings ++ (parse text₂).warnings) := by
  have happend := document?_append h₁ h₂ hheader hmark hkeys
  rw [parse_of_document happend, parse_of_document h₁, parse_of_document h₂,
    warnings_ofTable (keysOnce_of_document happend), warnings_ofTable (keysOnce_of_document h₁),
    warnings_ofTable (keysOnce_of_document h₂)]
  exact ⟨value_ofTable_append root₁ root₂, defects_append hkeys⟩

/-- The first text ends within a comment here, and the second one implies a table. -/
theorem sections_of_either_comment :
    (parse ("general.border = 2 # -" ++ "\n" ++ "[[tags.tag]]\ntitle = 'a'\n")).value.general.border
        = 2 ∧
      (parse ("general.border = 2 # -" ++ "\n" ++ "[[tags.tag]]\ntitle = 'a'\n")).value.tags =
        [{ title := "a" }] := by
  have h₁ : document? "general.border = 2 # -" =
      some [("general", .table [("border", .integer 2)])] := by decide +kernel
  have h₂ : document? "[[tags.tag]]\ntitle = 'a'\n" =
      some [("tags", .table [("tag", .array [.table [("title", .string "a")]])])] := by
    decide +kernel
  have hheader : StartsWithHeader "[[tags.tag]]\ntitle = 'a'\n" :=
    ⟨⟨["tags"], "tag", true⟩, [.keyLine ⟨[], "title", .string "a"⟩], by decide +kernel⟩
  rw [(sections_of_either h₁ h₂ hheader (by decide) (by decide)).1, parse_of_document h₁,
    parse_of_document h₂]
  constructor
  · exact (congrArg General.border (general_sections (keysOnce_of_document h₁))).trans rfl
  · exact (listed_sections (keysOnce_of_document h₂) .tags).trans rfl

end WmConfig.Settings
