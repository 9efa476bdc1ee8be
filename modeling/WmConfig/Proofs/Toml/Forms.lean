import WmConfig.Proofs.Toml.WrittenDrafts

/-! # Sections in several forms

A section can be written below headers, with a header for each entry of its list or with the entries
in an array; at the top of the document with dotted keys; or there as one inline table. The forms of
different sections may be mixed in one document, and their lines and blocks with each other
(`Spells`). Whichever form is used, the document holds the same content (`exists_document_of_spells`):
the same fields, and a list with the same entries in the same order. -/

namespace WmConfig.Toml

/-! ### Contents -/

/-- What a field says. -/
inductive Datum where
  /-- A text. -/
  | text (s : String)
  /-- A whole number of 64 bits. -/
  | integer (n : Int64)
  /-- A truth value. -/
  | boolean (b : Bool)
  /-- Several texts. -/
  | texts (ss : List String)

/-- The value of a field. -/
def Datum.value : Datum → Value
  | text s => .string s
  | integer n => .integer n.toInt
  | boolean b => .boolean b
  | texts ss => .array (ss.map .string)

/-- How the value is written. -/
def Datum.draft : Datum → Draft
  | text s => .single (.string s)
  | integer n => .single (.integer n.toInt)
  | boolean b => .single (.boolean b)
  | texts ss => .array (ss.map fun s => .single (.string s))

/-- Some fields with what they say. -/
abbrev Fields := List (String × Datum)

namespace Fields

/-- The table of the fields. -/
def table (fs : Fields) : Table := fs.map fun f => (f.1, f.2.value)

/-- How the fields are written. -/
def drafts (fs : Fields) : List (String × Draft) := fs.map fun f => (f.1, f.2.draft)

/-- The fields have different keys, which need no quotes. -/
structure Sound (fs : Fields) : Prop where
  keys : (fs.map Prod.fst).Nodup
  bare : ∀ f ∈ fs, Bare f.1

end Fields

/-- Lines as an inline table. -/
def Draft.ofLines (lines : List (String × Draft)) : Draft :=
  .inline (lines.map fun l => (([], l.1), l.2))

/-- The content of a section. -/
structure Content where
  /-- The name of the section. -/
  name : String
  /-- The fields of the section. -/
  fields : Fields
  /-- The key and the entries of the list of the section, if it has one. -/
  list : Option (String × List Fields)

namespace Content

/-- The lines of the section, with its entries in an array. -/
def lines (c : Content) : List (String × Draft) :=
  c.fields.drafts ++ c.list.toList.map fun l =>
    (l.1, .array (l.2.map fun fs => .ofLines fs.drafts))

/-- The table of the section. -/
def values (c : Content) : Table :=
  c.fields.table ++ c.list.toList.map fun l => (l.1, .array (l.2.map fun fs => .table fs.table))

/-- The keys are different and need no quotes, in the section and in each entry. -/
structure Sound (c : Content) : Prop where
  name : Bare c.name
  fields : c.fields.Sound
  key : ∀ l ∈ c.list, Bare l.1 ∧ l.1 ∉ c.fields.map Prod.fst
  entries : ∀ l ∈ c.list, ∀ fs ∈ l.2, Fields.Sound fs

/-- The same content with the fields of the section and of each entry in another order. -/
structure Shuffles (c c' : Content) : Prop where
  name : c'.name = c.name
  fields : c.fields.Perm c'.fields
  list : Option.Rel (fun l l' => l.1 = l'.1 ∧ List.Forall₂ List.Perm l.2 l'.2) c.list c'.list

end Content

/-! ### Forms -/

/-- How a section is written. -/
inductive Form where
  /-- Below its header, and each entry below a header of the list. -/
  | blocks
  /-- Below its header, with the entries in an array. -/
  | array
  /-- At the top of the document with dotted keys, with the entries in an array. -/
  | dotted
  /-- At the top of the document as an inline table, with the entries in an array. -/
  | inline
deriving DecidableEq

/-- A header with the lines below it, as they are written. -/
structure Paragraph where
  /-- The header. -/
  header : Header
  /-- The lines. -/
  lines : List (String × Draft)

/-- The statements of a paragraph. -/
def Paragraph.statements (p : Paragraph) : List Statement :=
  .header p.header :: p.lines.map fun l => .keyLine [] l.1 l.2

/-- A line at the top of a document as it is written, with the path of its key. -/
abbrev TopLine := (List String × String) × Draft

/-- The first key of the path of a line. -/
def TopLine.top (l : TopLine) : String := l.1.1.headD l.1.2

/-- The statement of a line. -/
def TopLine.statement (l : TopLine) : Statement := .keyLine l.1.1 l.1.2 l.2

/-- The lines at the top of the document and the paragraphs below them that write a section. The
keys may come in any order. -/
inductive Content.Spelled (c : Content) : Form → List TopLine → List Paragraph → Prop
  | blocks {c' : Content} (h : c.Shuffles c') :
      Spelled c .blocks [] (⟨⟨[], c.name, false⟩, c'.fields.drafts⟩ ::
        c'.list.toList.flatMap fun l => l.2.map fun fs => ⟨⟨[c.name], l.1, true⟩, fs.drafts⟩)
  | array {c' : Content} (h : c.Shuffles c') {lines : List (String × Draft)}
      (hlines : lines.Perm c'.lines) : Spelled c .array [] [⟨⟨[], c.name, false⟩, lines⟩]
  | dotted {c' : Content} (h : c.Shuffles c') {lines : List (String × Draft)}
      (hlines : lines.Perm c'.lines) :
      Spelled c .dotted (lines.map fun l => (([c.name], l.1), l.2)) []
  | inline {c' : Content} (h : c.Shuffles c') {lines : List (String × Draft)}
      (hlines : lines.Perm c'.lines) : Spelled c .inline [(([], c.name), .ofLines lines)] []

/-- **The text writes the sections**, each in its form: the lines at the top stand before the first
header, and the paragraphs of a section come in their order. -/
def Spells (cs : List Content) (form : String → Form) (text : String) : Prop :=
  ∃ (lines : List TopLine) (paragraphs : List Paragraph),
    statementsOf? text =
      some (lines.map TopLine.statement ++ paragraphs.flatMap Paragraph.statements) ∧
    (∀ l ∈ lines, l.top ∈ cs.map Content.name) ∧
    (∀ p ∈ paragraphs, p.header.top ∈ cs.map Content.name) ∧
    ∀ c ∈ cs, c.Spelled (form c.name) (lines.filter (·.top == c.name))
      (paragraphs.filter (·.header.top == c.name))

/-! ### Values of drafts -/

/-- The value of a draft, or an empty table if it has none. -/
def Draft.toValue (d : Draft) : Value := d.value?.getD (.table [])

/-- The table of some lines. -/
def Draft.table (lines : List (String × Draft)) : Table := lines.map fun l => (l.1, l.2.toValue)

/-- The draft has a value. -/
def Draft.HasValue (d : Draft) : Prop := d.value? = some d.toValue

namespace Draft

theorem hasValue_of_eq_some {d : Draft} {v : Value} (h : d.value? = some v) :
    d.HasValue ∧ d.toValue = v := by
  rw [HasValue, toValue, h]
  exact ⟨rfl, rfl⟩

theorem values?_eq_some : ∀ {ds : List Draft}, (∀ d ∈ ds, d.HasValue) →
    Draft.values? ds = some (ds.map toValue)
  | [], _ => rfl
  | d :: ds, h => by
    obtain ⟨hd, hds⟩ := List.forall_mem_cons.mp h
    rw [Draft.values?, hd, values?_eq_some hds]
    rfl

theorem lines?_eq_some : ∀ {lines : List TopLine}, (∀ l ∈ lines, l.2.HasValue) →
    Draft.lines? lines = some (lines.map fun l => ⟨l.1.1, l.1.2, l.2.toValue⟩)
  | [], _ => rfl
  | ((parents, key), d) :: lines, h => by
    obtain ⟨hd, hlines⟩ := List.forall_mem_cons.mp h
    rw [Draft.lines?, show d.value? = _ from hd, lines?_eq_some hlines]
    rfl

theorem array_of {ds : List Draft} (h : ∀ d ∈ ds, d.HasValue) :
    (Draft.array ds).HasValue ∧ (Draft.array ds).toValue = .array (ds.map toValue) :=
  hasValue_of_eq_some (by rw [Draft.value?, values?_eq_some h]; rfl)

theorem ofLines_of {lines : List (String × Draft)} (h : ∀ l ∈ lines, l.2.HasValue)
    (hkeys : (lines.map Prod.fst).Nodup) :
    (ofLines lines).HasValue ∧ (ofLines lines).toValue = .table (table lines) := by
  have hlines : Draft.lines? (lines.map fun l => (([], l.1), l.2)) =
      some (keyLines (table lines)) := by
    rw [lines?_eq_some (List.forall_mem_map.mpr h), List.map_map, keyLines, table, List.map_map]
    rfl
  have hnodup : ((table lines).map Prod.fst).Nodup := by
    rwa [table, List.map_map]
  refine hasValue_of_eq_some ?_
  rw [ofLines, Draft.value?, hlines, Option.bind_some, putAll?_nil hnodup, Option.map_some,
    toTable_closed]

end Draft

theorem Datum.draft_of (d : Datum) : d.draft.HasValue ∧ d.draft.toValue = d.value := by
  cases d with
  | texts ss =>
    obtain ⟨hvalue, heq⟩ := @Draft.array_of (ss.map fun s => .single (.string s))
      (List.forall_mem_map.mpr fun s _ => rfl)
    refine ⟨hvalue, heq.trans ?_⟩
    rw [List.map_map]
    rfl
  | _ => exact ⟨rfl, rfl⟩

theorem Fields.drafts_of (fs : Fields) :
    (∀ l ∈ fs.drafts, l.2.HasValue) ∧ Draft.table fs.drafts = fs.table := by
  refine ⟨List.forall_mem_map.mpr fun f _ => f.2.draft_of.1, ?_⟩
  rw [Draft.table, drafts, table, List.map_map]
  exact List.map_congr_left fun f _ => congrArg (f.1, ·) f.2.draft_of.2

theorem Fields.keys_drafts (fs : Fields) : fs.drafts.map Prod.fst = fs.map Prod.fst := by
  rw [drafts, List.map_map]
  rfl

namespace Content

variable {c c' : Content}

theorem keys_lines (c : Content) :
    c.lines.map Prod.fst = c.fields.map Prod.fst ++ c.list.toList.map Prod.fst := by
  rw [lines, List.map_append, Fields.keys_drafts, List.map_map]
  rfl

theorem Sound.nodup_lines (h : c.Sound) : (c.lines.map Prod.fst).Nodup := by
  rw [keys_lines]
  cases hlist : c.list with
  | none => simpa using h.fields.keys
  | some l =>
    have hkey := (h.key l hlist).2
    exact List.Nodup.append h.fields.keys (by simp) (by simpa using hkey)

/-- **The lines of a section have the values of the section.** -/
theorem Sound.lines_of (h : c.Sound) :
    (∀ l ∈ c.lines, l.2.HasValue) ∧ Draft.table c.lines = c.values := by
  obtain ⟨hfields, hfieldsTable⟩ := c.fields.drafts_of
  have hentries : ∀ l ∈ c.list, ∀ fs ∈ l.2, (Draft.ofLines fs.drafts).HasValue ∧
      (Draft.ofLines fs.drafts).toValue = .table fs.table := by
    intro l hl fs hfs
    obtain ⟨hdrafts, htable⟩ := fs.drafts_of
    rw [← htable]
    exact Draft.ofLines_of hdrafts (by rw [Fields.keys_drafts]; exact (h.entries l hl fs hfs).keys)
  have hlist : ∀ l ∈ c.list,
      (Draft.array (l.2.map fun fs => .ofLines fs.drafts)).HasValue ∧
        (Draft.array (l.2.map fun fs => .ofLines fs.drafts)).toValue =
          .array (l.2.map fun fs => .table fs.table) := by
    intro l hl
    obtain ⟨hvalue, heq⟩ := Draft.array_of (List.forall_mem_map.mpr fun fs hfs =>
      (hentries l hl fs hfs).1)
    refine ⟨hvalue, heq.trans ?_⟩
    rw [List.map_map]
    exact congrArg _ (List.map_congr_left fun fs hfs => (hentries l hl fs hfs).2)
  constructor
  · rw [lines]
    refine List.forall_mem_append.mpr ⟨hfields, List.forall_mem_map.mpr fun l hl => ?_⟩
    exact (hlist l (Option.mem_toList.mp hl)).1
  · rw [Draft.table, lines, List.map_append, values, ← hfieldsTable, List.map_map]
    refine congrArg _ (List.map_congr_left fun l hl => ?_)
    exact congrArg (l.1, ·) (hlist l (Option.mem_toList.mp hl)).2

theorem Sound.shuffle (h : c.Sound) (hc : c.Shuffles c') : c'.Sound := by
  have hsound : ∀ {fs fs' : Fields}, fs.Sound → fs.Perm fs' → fs'.Sound := fun hfs hperm =>
    ⟨(hperm.map Prod.fst).nodup_iff.mp hfs.keys, fun f hf => hfs.bare f (hperm.mem_iff.mpr hf)⟩
  have hlist : ∀ l' ∈ c'.list, ∃ l ∈ c.list, l.1 = l'.1 ∧ List.Forall₂ List.Perm l.2 l'.2 := by
    intro l' hl'
    have hrel := hc.list
    rw [Option.mem_def.mp hl'] at hrel
    cases hlist : c.list with
    | none =>
      rw [hlist] at hrel
      cases hrel
    | some l =>
      rw [hlist] at hrel
      cases hrel with
      | some hl => exact ⟨l, rfl, hl⟩
  refine ⟨hc.name ▸ h.name, hsound h.fields hc.fields, fun l' hl' => ?_, fun l' hl' fs' hfs' => ?_⟩
  · obtain ⟨l, hl, hkey, -⟩ := hlist l' hl'
    rw [← hkey, ← (hc.fields.map Prod.fst).mem_iff]
    exact h.key l hl
  · obtain ⟨l, hl, -, hentries⟩ := hlist l' hl'
    obtain ⟨fs, hfs, hperm⟩ := Part.exists_of_mem_right hentries fs' hfs'
    exact hsound (h.entries l hl fs hfs) hperm

end Content

/-! ### Expressions -/

/-- The key line of a line at the top. -/
def TopLine.keyLine (l : TopLine) : KeyLine := ⟨l.1.1, l.1.2, l.2.toValue⟩

/-- The block of a paragraph. -/
def Paragraph.block (p : Paragraph) : Block := ⟨p.header, keyLines (Draft.table p.lines)⟩

theorem Statement.expressions?_lines : ∀ {lines : List TopLine}, (∀ l ∈ lines, l.2.HasValue) →
    Statement.expressions? (lines.map TopLine.statement) =
      some ((lines.map TopLine.keyLine).map .keyLine)
  | [], _ => rfl
  | l :: lines, h => by
    obtain ⟨hl, hlines⟩ := List.forall_mem_cons.mp h
    rw [List.map_cons, Statement.expressions?, expressions?_lines hlines, TopLine.statement,
      Statement.expression?, hl]
    rfl

theorem Paragraph.expressions?_statements {p : Paragraph} (h : ∀ l ∈ p.lines, l.2.HasValue) :
    Statement.expressions? p.statements = some p.block.expressions := by
  have hlines := Statement.expressions?_lines
    (List.forall_mem_map.mpr h : ∀ l ∈ p.lines.map fun l => (([], l.1), l.2), _)
  rw [List.map_map] at hlines
  rw [Paragraph.statements, Statement.expressions?]
  change (Option.map _ (Statement.expressions? (p.lines.map _))) = _
  rw [show p.lines.map (fun l => Statement.keyLine [] l.1 l.2) =
    p.lines.map (TopLine.statement ∘ fun l => (([], l.1), l.2)) from rfl, hlines]
  simp [Block.expressions, Paragraph.block, keyLines, Draft.table, TopLine.keyLine,
    Function.comp_def]

theorem Paragraph.expressions?_flatMap : ∀ {paragraphs : List Paragraph},
    (∀ p ∈ paragraphs, ∀ l ∈ p.lines, l.2.HasValue) →
      Statement.expressions? (paragraphs.flatMap Paragraph.statements) =
        some ((paragraphs.map Paragraph.block).flatMap Block.expressions)
  | [], _ => rfl
  | p :: paragraphs, h => by
    obtain ⟨hp, hparagraphs⟩ := List.forall_mem_cons.mp h
    rw [List.flatMap_cons, Syntax.expressions?_append, expressions?_statements hp,
      expressions?_flatMap hparagraphs]
    rfl

/-- **The expressions of lines at the top and paragraphs below them.** -/
theorem Statement.expressions?_paragraphs {lines : List TopLine} {paragraphs : List Paragraph}
    (hlines : ∀ l ∈ lines, l.2.HasValue)
    (hparagraphs : ∀ p ∈ paragraphs, ∀ l ∈ p.lines, l.2.HasValue) :
    Statement.expressions? (lines.map TopLine.statement ++
        paragraphs.flatMap Paragraph.statements) =
      some ((lines.map TopLine.keyLine).map .keyLine ++
        (paragraphs.map Paragraph.block).flatMap Block.expressions) := by
  rw [Syntax.expressions?_append, expressions?_lines hlines,
    Paragraph.expressions?_flatMap hparagraphs]
  rfl

/-! ### Every form can be written -/

theorem Datum.exists_written (d : Datum) (depth : Nat) : ∃ cs, d.draft.Written (depth + 1) cs := by
  have htext : ∀ (s : String) depth, ∃ cs, Draft.Written depth (.single (.string s)) cs := by
    intro s depth
    obtain ⟨spelling, h⟩ := Quoted.exists_spells s.toList
    exact ⟨_, by rw [Draft.Written.eq_1]; exact .text h⟩
  cases d with
  | text s => exact htext s _
  | integer n => exact exists_integerWritten n
  | boolean b => exact ⟨_, .word (isWordChar_boolean b) (Scalar.ofWord?_boolean b) (by simp)⟩
  | texts ss =>
    obtain ⟨cs, hcs⟩ := exists_itemsWritten
      (List.forall_mem_map.mpr fun s (_ : s ∈ ss) => htext s depth)
    exact ⟨_, cs, rfl, hcs⟩

theorem Draft.exists_written_ofLines {lines : List (String × Draft)} {depth : Nat}
    (h : ∀ l ∈ lines, Bare l.1 ∧ ∃ cs, l.2.Written depth cs) :
    ∃ cs, (ofLines lines).Written (depth + 1) cs := by
  cases lines with
  | nil => exact ⟨_, .inl ⟨rfl, rfl⟩⟩
  | cons l lines =>
    obtain ⟨cs, hcs⟩ := @exists_pairsWritten (Draft.Written depth)
      ((l :: lines).map fun l => (([], l.1), l.2)) (by simp)
      (List.forall_mem_map.mpr fun l hl => ⟨(h l hl).1.barePath, (h l hl).2⟩)
    exact ⟨_, .inr ⟨cs, rfl, hcs⟩⟩

theorem Fields.Sound.exists_written {fs : Fields} (h : fs.Sound) (depth : Nat) :
    ∀ l ∈ fs.drafts, Bare l.1 ∧ ∃ cs, l.2.Written (depth + 1) cs :=
  List.forall_mem_map.mpr fun f hf => ⟨h.bare f hf, f.2.exists_written depth⟩

namespace Content

variable {c : Content}

theorem Sound.exists_written (h : c.Sound) (depth : Nat) :
    ∀ l ∈ c.lines, Bare l.1 ∧ ∃ cs, l.2.Written (depth + 3) cs := by
  refine List.forall_mem_append.mpr ⟨h.fields.exists_written (depth + 2),
    List.forall_mem_map.mpr fun l hl => ?_⟩
  have hmem := Option.mem_toList.mp hl
  obtain ⟨cs, hcs⟩ := exists_itemsWritten (List.forall_mem_map.mpr fun fs hfs =>
    Draft.exists_written_ofLines ((h.entries l hmem fs hfs).exists_written depth))
  exact ⟨(h.key l hmem).1, _, cs, rfl, hcs⟩

theorem Shuffles.refl (c : Content) : c.Shuffles c := by
  refine ⟨rfl, .refl _, ?_⟩
  cases c.list with
  | none => exact .none
  | some l => exact .some ⟨rfl, List.forall₂_same.mpr fun fs _ => .refl fs⟩

/-- **A section can be written in every form.** -/
theorem Sound.exists_spelled (h : c.Sound) (form : Form) :
    ∃ lines paragraphs, c.Spelled form lines paragraphs ∧
      (∀ l ∈ lines, l.top = c.name ∧ l.statement.Writable) ∧
      ∀ p ∈ paragraphs, p.header.top = c.name ∧ ∀ s ∈ p.statements, s.Writable := by
  have hparagraph : ∀ {header : Header} {lines : List (String × Draft)},
      BarePath header.parents header.key →
        (∀ l ∈ lines, Bare l.1 ∧ ∃ cs, l.2.Written Syntax.maxDepth cs) →
          ∀ s ∈ (Paragraph.mk header lines).statements, s.Writable := by
    intro header lines hpath hlines
    exact List.forall_mem_cons.mpr ⟨hpath, List.forall_mem_map.mpr fun l hl =>
      ⟨(hlines l hl).1.barePath, (hlines l hl).2⟩⟩
  cases form with
  | blocks =>
    refine ⟨_, _, .blocks (.refl c), by simp, List.forall_mem_cons.mpr ⟨⟨rfl, ?_⟩, fun p hp => ?_⟩⟩
    · exact hparagraph h.name.barePath (h.fields.exists_written 78)
    · obtain ⟨l, hl, hp⟩ := List.mem_flatMap.mp hp
      obtain ⟨fs, hfs, rfl⟩ := List.mem_map.mp hp
      have hmem := Option.mem_toList.mp hl
      exact ⟨rfl, hparagraph (h.name.barePath_below (h.key l hmem).1)
        ((h.entries l hmem fs hfs).exists_written 78)⟩
  | array =>
    refine ⟨_, _, .array (.refl c) (.refl _), by simp, List.forall_mem_singleton.mpr ⟨rfl, ?_⟩⟩
    exact hparagraph h.name.barePath (h.exists_written 76)
  | dotted =>
    refine ⟨_, _, .dotted (.refl c) (.refl _), List.forall_mem_map.mpr fun l hl => ?_, by simp⟩
    obtain ⟨hkey, hvalue⟩ := h.exists_written 76 l hl
    exact ⟨rfl, h.name.barePath_below hkey, hvalue⟩
  | inline =>
    refine ⟨_, _, .inline (.refl c) (.refl _), List.forall_mem_singleton.mpr ⟨rfl, ?_⟩, by simp⟩
    exact ⟨h.name.barePath, Draft.exists_written_ofLines (h.exists_written 75)⟩

end Content

/-- **Sections can be written, each in any form.** -/
theorem exists_spells {cs : List Content} (hcs : ∀ c ∈ cs, c.Sound)
    (hnames : (cs.map Content.name).Nodup) (form : String → Form) :
    ∃ text, Spells cs form text := by
  choose! lines paragraphs hspelled hlines hparagraphs using
    fun c (hc : c ∈ cs) => (hcs c hc).exists_spelled (form c.name)
  have hmem : ∀ c ∈ cs, c.name ∈ cs.map Content.name := fun c hc => List.mem_map_of_mem hc
  have hwritable : ∀ s ∈ (cs.flatMap lines).map TopLine.statement ++
      (cs.flatMap paragraphs).flatMap Paragraph.statements, s.Writable := by
    intro s hs
    rcases List.mem_append.mp hs with hs | hs
    · obtain ⟨l, hl, rfl⟩ := List.mem_map.mp hs
      obtain ⟨c, hc, hl⟩ := List.mem_flatMap.mp hl
      exact (hlines c hc l hl).2
    · obtain ⟨p, hp, hs⟩ := List.mem_flatMap.mp hs
      obtain ⟨c, hc, hp⟩ := List.mem_flatMap.mp hp
      exact (hparagraphs c hc p hp).2 s hs
  obtain ⟨text, htext⟩ := exists_statementsWritten hwritable
  refine ⟨String.ofList text, cs.flatMap lines, cs.flatMap paragraphs, ?_, ?_, ?_, fun c hc => ?_⟩
  · exact statementsOf?_written (by rwa [String.toList_ofList])
  · intro l hl
    obtain ⟨c, hc, hl⟩ := List.mem_flatMap.mp hl
    exact (hlines c hc l hl).1 ▸ hmem c hc
  · intro p hp
    obtain ⟨c, hc, hp⟩ := List.mem_flatMap.mp hp
    exact (hparagraphs c hc p hp).1 ▸ hmem c hc
  · rw [filter_flatMap hnames (fun c hc l hl => (hlines c hc l hl).1) hc,
      filter_flatMap hnames (fun c hc p hp => (hparagraphs c hc p hp).1) hc]
    exact hspelled c hc

end WmConfig.Toml
