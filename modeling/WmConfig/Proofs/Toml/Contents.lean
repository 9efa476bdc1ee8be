import WmConfig.Proofs.Toml.Forms

/-! # What stands in a document with sections in several forms

Each form has rules of its own for what it opens: a header opens a table once, the first dotted key
opens a table that only dotted keys extend, and an inline table is closed at once. All of them come
to the same table in the end (`Spelled.exists_held`), so a text that writes some sections is a
document that holds their contents and nothing else (`exists_document_of_spells`). -/

namespace WmConfig.Toml

/-! ### Lines at the top -/

/-- The table of dotted keys, not there before the first one. -/
def dotted (t : Table) : Option Node := if t.isEmpty then none else some (.table .dotted (closed t))

theorem dotted_append (t : Table) (e : String × Value) :
    dotted (t ++ [e]) = some (.table .dotted (closed t ++ [(e.1, .value e.2)])) := by
  rw [dotted, if_neg (by simp), closed, List.map_append]
  rfl

/-- A dotted key adds to the table of dotted keys. -/
theorem opens_dotted (name : String) {key : String} (v : Value) {t : Table}
    (hkey : key ∉ t.map Prod.fst) :
    (KeyLine.edit ⟨[name], key, v⟩).Opens (dotted t)
      (.table .dotted (closed t ++ [(key, .value v)])) := by
  have henters : Entries.Enters .dotted (dotted t) .dotted (closed t) (.table .dotted) := by
    unfold dotted
    split_ifs with hempty
    · rw [List.isEmpty_iff.mp hempty]
      exact .missing
    · exact .table (by simp) _
  have hlookup : (closed t).lookup key = none := by
    rwa [lookup_eq_none_iff, ← Entries.keys_toTable, toTable_closed]
  have hput : KeyLine.putHere ⟨[name], key, v⟩ .dotted (closed t) =
      some (closed t ++ [(key, .value v)]) :=
    KeyLine.putHere_eq_some_iff.mpr ⟨Bool.false_ne_true.symm, hlookup, rfl⟩
  refine (KeyLine.acts _).opens _ _ ?_
  change Entries.into? .dotted (KeyLine.putHere ⟨[name], key, v⟩) (dotted t) = _
  exact Entries.into?_eq_some_iff.mpr ⟨_, _, _, _, henters, hput, rfl⟩

theorem chain_dotted (name : String) : ∀ {t : Table} (front : Table),
    ((front ++ t).map Prod.fst).Nodup →
      Edit.Chain (dotted front) (t.map fun e => KeyLine.edit ⟨[name], e.1, e.2⟩)
        (dotted (front ++ t))
  | [], front, _ => by
    rw [List.append_nil]
    exact .nil _
  | e :: t, front, h => by
    have hsplit : front ++ e :: t = (front ++ [e]) ++ t := by simp
    have hkey : e.1 ∉ front.map Prod.fst := by
      rw [List.map_append, List.nodup_append] at h
      exact fun hmem => h.2.2 e.1 hmem e.1 (by simp) rfl
    rw [hsplit] at h ⊢
    refine .cons (opens_dotted name e.2 hkey) ?_
    rw [← dotted_append]
    exact chain_dotted name (front ++ [e]) h

/-- A key line at the top writes its value. -/
theorem opens_value (name : String) (v : Value) :
    (KeyLine.edit ⟨[], name, v⟩).Opens none (.value v) := (KeyLine.acts ⟨[], name, v⟩).opens _ _ rfl

/-! ### The tables of contents -/

theorem Bare.ne_reserved {key : String} (h : Bare key) : key ≠ reservedDateKey := by
  rintro rfl
  exact absurd (h.2 '$' (by decide)) (by decide)

theorem Datum.withDates? (d : Datum) : d.value.withDates? = some d.value := by
  cases d with
  | texts ss => exact withDates?_array (List.forall_mem_map.mpr fun s _ => rfl)
  | _ => rfl

theorem Fields.keys_table (fs : Fields) : fs.table.map Prod.fst = fs.map Prod.fst := by
  rw [table, List.map_map]
  rfl

theorem Fields.Sound.settled {fs : Fields} (h : fs.Sound) : fs.table.Settled where
  keys := fs.keys_table ▸ h.keys
  unreserved := List.forall_mem_map.mpr fun f hf => (h.bare f hf).ne_reserved
  dates := List.forall_mem_map.mpr fun f _ => f.2.withDates?

theorem Fields.Sound.get?_perm {fs fs' : Fields} (h : fs.Sound) (hperm : fs.Perm fs') (key : String) :
    Table.get? fs'.table key = Table.get? fs.table key :=
  Table.get?_perm h.settled.keys (hperm.symm.map _)

namespace Content

variable {c c' : Content}

theorem Sound.settled (h : c.Sound) : c.values.Settled := by
  have hkeys : c.values.map Prod.fst = c.lines.map Prod.fst := by
    rw [← h.lines_of.2, Draft.table, List.map_map]
    rfl
  have hlist : ∀ l ∈ c.list.toList,
      l.1 ≠ reservedDateKey ∧ (Value.array (l.2.map fun fs => .table fs.table)).withDates? =
        some (.array (l.2.map fun fs => .table fs.table)) := by
    intro l hl
    have hmem := Option.mem_toList.mp hl
    exact ⟨(h.key l hmem).1.ne_reserved, withDates?_array (List.forall_mem_map.mpr fun fs hfs =>
      (h.entries l hmem fs hfs).settled.withDates?)⟩
  refine ⟨hkeys ▸ h.nodup_lines, ?_, ?_⟩
  · exact List.forall_mem_append.mpr ⟨h.fields.settled.unreserved,
      List.forall_mem_map.mpr fun l hl => (hlist l hl).1⟩
  · exact List.forall_mem_append.mpr ⟨h.fields.settled.dates,
      List.forall_mem_map.mpr fun l hl => (hlist l hl).2⟩

/-- The values that a section may have in a document, given its content: the keys may come in any
order, a list without entries may be left out, and so may a section without keys. -/
inductive Held (c : Content) : Option Value → Prop
  | full {c' : Content} {t : Table} (h : c.Shuffles c') (ht : t.Perm c'.values) :
      Held c (some (.table t))
  | fieldsOnly {c' : Content} {key : String} {t : Table} (h : c.Shuffles c')
      (hlist : c'.list = some (key, [])) (ht : t.Perm c'.fields.table) : Held c (some (.table t))
  | nothing (hfields : c.fields = []) (hlist : c.list = none) : Held c none

theorem Held.settled (hc : c.Sound) {v : Value} (h : c.Held (some v)) :
    ∃ t : Table, v = .table t ∧ t.Settled := by
  cases h with
  | full h ht => exact ⟨_, rfl, (hc.shuffle h).settled.perm ht.symm⟩
  | fieldsOnly h _ ht => exact ⟨_, rfl, (hc.shuffle h).fields.settled.perm ht.symm⟩

/-- The entries of a list as its value. -/
def listValue (entries : List Fields) : Value := .array (entries.map fun fs => .table fs.table)

theorem get?_values_field {key : String} (hkey : ∀ l ∈ c.list, l.1 ≠ key) :
    Table.get? c.values key = Table.get? c.fields.table key := by
  rw [values, Table.get?_append]
  cases hlist : c.list with
  | none => exact Option.or_none
  | some l =>
    have hnone : Table.get? [(l.1, listValue l.2)] key = none :=
      lookup_cons_of_ne (hkey l hlist).symm _ _
    exact hnone ▸ Option.or_none

theorem Sound.get?_values_list (hc : c.Sound) {l : String × List Fields} (hl : c.list = some l) :
    Table.get? c.values l.1 = some (listValue l.2) := by
  have hfields : Table.get? c.fields.table l.1 = none := by
    rw [Table.get?, lookup_eq_none_iff, Fields.keys_table]
    exact (hc.key l hl).2
  rw [values, Table.get?_append, hfields, Option.none_or, hl]
  exact List.lookup_cons_self

/-- The list of a section with the same content. -/
theorem Shuffles.exists_list (h : c.Shuffles c') {l : String × List Fields}
    (hl : c.list = some l) :
    ∃ entries, c'.list = some (l.1, entries) ∧ List.Forall₂ List.Perm l.2 entries := by
  have hrel := h.list
  rw [hl] at hrel
  cases hlist : c'.list with
  | none =>
    rw [hlist] at hrel
    cases hrel
  | some l' =>
    rw [hlist] at hrel
    cases hrel with
    | some hentries => exact ⟨l'.2, by rw [hentries.1], hentries.2⟩

theorem Shuffles.list_eq_none_iff (h : c.Shuffles c') : c.list = none ↔ c'.list = none := by
  obtain ⟨-, -, hrel⟩ := h
  revert hrel
  cases c.list <;> cases c'.list <;> (intro hrel; cases hrel) <;> simp

/-- **The fields of a section** are those of its content. -/
theorem Held.get?_field (hc : c.Sound) {v : Option Value} (h : c.Held v) {key : String}
    (hkey : ∀ l ∈ c.list, l.1 ≠ key) :
    (v.bind Value.table?).bind (Table.get? · key) = Table.get? c.fields.table key := by
  cases h with
  | @full c' t h ht =>
    have hkey' : ∀ l ∈ c'.list, l.1 ≠ key := by
      intro l' hl'
      cases hlist : c.list with
      | none =>
        rw [h.list_eq_none_iff.mp hlist] at hl'
        cases hl'
      | some l =>
        obtain ⟨entries, hentries, -⟩ := h.exists_list hlist
        rw [hentries] at hl'
        cases hl'
        exact hkey l hlist
    change Table.get? t key = _
    rw [Table.get?_perm (hc.shuffle h).settled.keys ht, get?_values_field hkey',
      hc.fields.get?_perm h.fields]
  | @fieldsOnly c' _ t h _ ht =>
    change Table.get? t key = _
    rw [Table.get?_perm (hc.shuffle h).fields.settled.keys ht, hc.fields.get?_perm h.fields]
  | nothing hnil =>
    rw [hnil]
    rfl

/-- **The list of a section** has the entries of its content, or is not there without entries. -/
theorem Held.get?_list (hc : c.Sound) {v : Option Value} (h : c.Held v)
    {l : String × List Fields} (hl : c.list = some l) :
    ∃ entries, List.Forall₂ List.Perm l.2 entries ∧
      ((v.bind Value.table?).bind (Table.get? · l.1) = some (listValue entries) ∨
        entries = [] ∧ (v.bind Value.table?).bind (Table.get? · l.1) = none) := by
  cases h with
  | @full c' t h ht =>
    obtain ⟨entries, hlist, hentries⟩ := h.exists_list hl
    refine ⟨entries, hentries, .inl ?_⟩
    exact (Table.get?_perm (hc.shuffle h).settled.keys ht).trans
      ((hc.shuffle h).get?_values_list hlist)
  | @fieldsOnly c' key t h hlist ht =>
    obtain ⟨entries, hlist', hentries⟩ := h.exists_list hl
    have hkey : c'.list = some (l.1, []) ∧ entries = [] := by
      rw [hlist'] at hlist
      cases hlist
      exact ⟨hlist', rfl⟩
    refine ⟨entries, hentries, .inr ⟨hkey.2, ?_⟩⟩
    change Table.get? t l.1 = none
    rw [Table.get?_perm (hc.shuffle h).fields.settled.keys ht, Table.get?, lookup_eq_none_iff,
      Fields.keys_table]
    exact ((hc.shuffle h).key _ hkey.1).2
  | nothing _ hnone =>
    rw [hnone] at hl
    cases hl

/-! ### The forms -/

/-- The section with a header for each entry. -/
def part (c : Content) : Part where
  name := c.name
  own := some c.fields.table
  key := (c.list.map Prod.fst).getD ""
  items := (c.list.map fun l => l.2.map Fields.table).getD []

theorem not_bare_empty : ¬ Bare "" := fun h => h.1 rfl

theorem Sound.part (h : c.Sound) : c.part.Sound := by
  obtain ⟨name, fields, list⟩ := c
  cases list with
  | none =>
    refine ⟨h.fields.settled, ?_, (by decide : "" ≠ reservedDateKey), by simp [Content.part]⟩
    change "" ∉ fields.table.map Prod.fst
    rw [fields.keys_table]
    intro hmem
    obtain ⟨f, hf, hempty⟩ := List.mem_map.mp hmem
    exact not_bare_empty (hempty ▸ h.fields.bare f hf)
  | some l =>
    obtain ⟨hbare, hkey⟩ := h.key l rfl
    refine ⟨h.fields.settled, ?_, hbare.ne_reserved, List.forall_mem_map.mpr fun fs hfs =>
      (h.entries l rfl fs hfs).settled⟩
    change l.1 ∉ fields.table.map Prod.fst
    rwa [fields.keys_table]

theorem held_part (h : c.Shuffles c') : c.Held c'.part.value? := by
  change c.Held (some (.table c'.part.table))
  obtain ⟨name, fields, list⟩ := c'
  cases list with
  | none => exact .full h (.refl _)
  | some l =>
    obtain ⟨key, entries⟩ := l
    cases entries with
    | nil => exact .fieldsOnly h rfl (.of_eq (List.append_nil _))
    | cons fs entries =>
      refine .full h (.of_eq ?_)
      change _ ++ [(key, Value.array (((fs :: entries).map Fields.table).map Value.table))] = _
      rw [List.map_map]
      rfl

theorem blocks_part (name : String) (c : Content) (hname : c.name = name) :
    (⟨⟨[], name, false⟩, c.fields.drafts⟩ :: c.list.toList.flatMap fun l =>
      l.2.map fun fs => ⟨⟨[name], l.1, true⟩, fs.drafts⟩).map Paragraph.block = c.part.blocks := by
  subst hname
  have hblock : ∀ (h : Header) (fs : Fields),
      (Paragraph.mk h fs.drafts).block = ⟨h, keyLines fs.table⟩ := by
    intro h fs
    rw [Paragraph.block, fs.drafts_of.2]
  obtain ⟨name, fields, list⟩ := c
  cases list with
  | none => simp [Part.blocks, Content.part, hblock]
  | some l => simp [Part.blocks, Content.part, hblock, Function.comp_def]

/-- The lines of a section in any order. -/
theorem Sound.perm_lines (hc : c.Sound) {lines : List (String × Draft)}
    (h : lines.Perm c.lines) : (∀ l ∈ lines, l.2.HasValue) ∧ (Draft.table lines).Perm c.values ∧
      (lines.map Prod.fst).Nodup := by
  obtain ⟨hvalue, htable⟩ := hc.lines_of
  exact ⟨fun l hl => hvalue l (h.mem_iff.mp hl), htable ▸ h.map _,
    (h.map Prod.fst).nodup_iff.mpr hc.nodup_lines⟩

theorem keys_table (lines : List (String × Draft)) :
    (Draft.table lines).map Prod.fst = lines.map Prod.fst := by
  rw [Draft.table, List.map_map]
  rfl

theorem shuffles_nil (h : c.Shuffles c') (hlines : c'.lines = []) :
    c.fields = [] ∧ c.list = none := by
  obtain ⟨hfields, hlist⟩ := List.append_eq_nil_iff.mp hlines
  have hfields' : c'.fields = [] := List.map_eq_nil_iff.mp hfields
  have hlist' : c'.list = none := Option.toList_eq_nil_iff.mp (List.map_eq_nil_iff.mp hlist)
  exact ⟨List.perm_nil.mp (hfields' ▸ h.fields), h.list_eq_none_iff.mpr hlist'⟩

variable {form : Form} {lines : List TopLine} {paragraphs : List Paragraph}

theorem Spelled.hasValue (hc : c.Sound) (h : c.Spelled form lines paragraphs) :
    (∀ l ∈ lines, l.2.HasValue) ∧ ∀ p ∈ paragraphs, ∀ l ∈ p.lines, l.2.HasValue := by
  cases h with
  | blocks h =>
    refine ⟨by simp, List.forall_mem_cons.mpr ⟨(Fields.drafts_of _).1, fun p hp => ?_⟩⟩
    obtain ⟨l, -, hp⟩ := List.mem_flatMap.mp hp
    obtain ⟨fs, -, rfl⟩ := List.mem_map.mp hp
    exact fs.drafts_of.1
  | array h hlines =>
    exact ⟨by simp, List.forall_mem_singleton.mpr ((hc.shuffle h).perm_lines hlines).1⟩
  | dotted h hlines =>
    exact ⟨List.forall_mem_map.mpr ((hc.shuffle h).perm_lines hlines).1, by simp⟩
  | inline h hlines =>
    obtain ⟨hvalue, -, hkeys⟩ := (hc.shuffle h).perm_lines hlines
    exact ⟨List.forall_mem_singleton.mpr (Draft.ofLines_of hvalue hkeys).1, by simp⟩

/-- **Every form comes to the content.** Whatever the form is, the section can be put together, and
the content is what it comes to. -/
theorem Spelled.exists_held (hc : c.Sound) (h : c.Spelled form lines paragraphs) :
    ∃ node, Edit.Chain none
        (edits (lines.map TopLine.keyLine) (paragraphs.map Paragraph.block)) node ∧
      c.Held (node.map Node.toValue) := by
  cases h with
  | @blocks c' h =>
    obtain ⟨node, hchain, hvalue⟩ := (hc.shuffle h).part.chain_blocks
    refine ⟨node, ?_, hvalue ▸ held_part h⟩
    rw [edits, blocks_part c.name c' h.name]
    exact hchain
  | @array c' h lines hlines =>
    obtain ⟨-, hperm, hkeys⟩ := (hc.shuffle h).perm_lines hlines
    refine ⟨_, .cons (opens_own c.name (keys_table lines ▸ hkeys)) (.nil _), ?_⟩
    rw [Option.map_some, Node.toValue, toTable_closed]
    exact .full h hperm
  | @dotted c' h lines hlines =>
    obtain ⟨-, hperm, hkeys⟩ := (hc.shuffle h).perm_lines hlines
    refine ⟨Toml.dotted (Draft.table lines), ?_, ?_⟩
    · have hkeys' : (([] ++ Draft.table lines).map Prod.fst).Nodup := by
        rwa [List.nil_append, keys_table]
      have hchain := chain_dotted c.name [] hkeys'
      rw [List.nil_append] at hchain
      nth_rewrite 1 [Draft.table] at hchain
      rw [List.map_map] at hchain
      rw [edits, List.map_map, List.map_map, List.map_nil, List.map_nil, List.append_nil]
      exact hchain
    · unfold Toml.dotted
      split_ifs with hempty
      · have hnil : lines = [] := List.map_eq_nil_iff.mp (List.isEmpty_iff.mp hempty)
        rw [hnil] at hlines
        obtain ⟨hfields, hlist⟩ := shuffles_nil h (List.nil_perm.mp hlines)
        exact .nothing hfields hlist
      · rw [Option.map_some, Node.toValue, toTable_closed]
        exact .full h hperm
  | @inline c' h lines hlines =>
    obtain ⟨hvalue, hperm, hkeys⟩ := (hc.shuffle h).perm_lines hlines
    refine ⟨_, .cons (opens_value c.name (Draft.ofLines lines).toValue) (.nil _), ?_⟩
    rw [Option.map_some, Node.toValue, (Draft.ofLines_of hvalue hkeys).2]
    exact .full h hperm

end Content

/-! ### Documents -/

/-- The document holds the contents and no other section. -/
structure HoldsOnly (cs : List Content) (root : Table) : Prop where
  sections : ∀ c ∈ cs, c.Held (root.get? c.name)
  others : ∀ name, name ∉ cs.map Content.name → root.get? name = none

/-- The edits of one key come from its own lines and paragraphs. -/
theorem editsAt_edits (key : String) (lines : List TopLine) (paragraphs : List Paragraph) :
    editsAt key (edits (lines.map TopLine.keyLine) (paragraphs.map Paragraph.block)) =
      edits ((lines.filter (·.top == key)).map TopLine.keyLine)
        ((paragraphs.filter (·.header.top == key)).map Paragraph.block) := by
  simp only [edits, editsAt, List.filter_append, List.filter_map]
  rfl

/-- Each line and each paragraph belongs to a section, and so it has a value. -/
theorem hasValue_of_spelled {cs : List Content} {form : String → Form} {lines : List TopLine}
    {paragraphs : List Paragraph} (hcs : ∀ c ∈ cs, c.Sound)
    (hlines : ∀ l ∈ lines, l.top ∈ cs.map Content.name)
    (hparagraphs : ∀ p ∈ paragraphs, p.header.top ∈ cs.map Content.name)
    (hspelled : ∀ c ∈ cs, c.Spelled (form c.name) (lines.filter (·.top == c.name))
      (paragraphs.filter (·.header.top == c.name))) :
    (∀ l ∈ lines, l.2.HasValue) ∧ ∀ p ∈ paragraphs, ∀ l ∈ p.lines, l.2.HasValue := by
  refine ⟨fun l hl => ?_, fun p hp => ?_⟩
  · obtain ⟨c, hc, hname⟩ := List.mem_map.mp (hlines l hl)
    exact ((hspelled c hc).hasValue (hcs c hc)).1 l
      (List.mem_filter.mpr ⟨hl, beq_iff_eq.mpr hname.symm⟩)
  · obtain ⟨c, hc, hname⟩ := List.mem_map.mp (hparagraphs p hp)
    exact ((hspelled c hc).hasValue (hcs c hc)).2 p
      (List.mem_filter.mpr ⟨hp, beq_iff_eq.mpr hname.symm⟩)

/-- **What a document in several forms holds.** A text that writes some sections, each in any form,
is a document, and it holds the content of each section and no other section. -/
theorem exists_document_of_spells {cs : List Content} {form : String → Form} {text : String}
    (hcs : ∀ c ∈ cs, c.Sound) (h : Spells cs form text) :
    ∃ root, document? text = some root ∧ HoldsOnly cs root := by
  obtain ⟨lines, paragraphs, hstatements, hlinesTop, hparagraphsTop, hspelled⟩ := h
  have hread : parse? text = assemble? ((lines.map TopLine.keyLine).map .keyLine ++
      (paragraphs.map Paragraph.block).flatMap Block.expressions) := by
    obtain ⟨hlines, hparagraphs⟩ := hasValue_of_spelled hcs hlinesTop hparagraphsTop hspelled
    rw [parse?_eq, expressionsOf?_eq_bind, hstatements, Option.bind_some,
      Statement.expressions?_paragraphs hlines hparagraphs]
    rfl
  have hsection : ∀ c ∈ cs, ∃ node, Edit.Chain none (editsAt c.name
      (edits (lines.map TopLine.keyLine) (paragraphs.map Paragraph.block))) node ∧
        c.Held (node.map Node.toValue) := by
    intro c hc
    rw [editsAt_edits]
    exact (hspelled c hc).exists_held (hcs c hc)
  have hnamed : ∀ name ∈ cs.map Content.name, ∃ node, Edit.Chain none (editsAt name
      (edits (lines.map TopLine.keyLine) (paragraphs.map Paragraph.block))) node ∧
        ∀ v, node.map Node.toValue = some v → v.withDates? = some v := by
    intro name hname
    obtain ⟨c, hc, rfl⟩ := List.mem_map.mp hname
    obtain ⟨node, hchain, hheld⟩ := hsection c hc
    refine ⟨node, hchain, fun v hv => ?_⟩
    obtain ⟨t, rfl, ht⟩ := (hv ▸ hheld).settled (hcs c hc)
    exact ht.withDates?
  have hothers : ∀ name ∉ cs.map Content.name, editsAt name
      (edits (lines.map TopLine.keyLine) (paragraphs.map Paragraph.block)) = [] := by
    intro name hname
    rw [editsAt_edits, filter_top_eq_nil hlinesTop hname, filter_top_eq_nil hparagraphsTop hname]
    rfl
  obtain ⟨root, hroot, hnone, hget⟩ := exists_document_of_names hread hnamed hothers
  refine ⟨root, hroot, fun c hc => ?_, hnone⟩
  obtain ⟨node, hchain, hheld⟩ := hsection c hc
  rw [hget c.name node hchain]
  exact hheld

end WmConfig.Toml
