import WmConfig.Proofs.Toml.Acts

/-! # Each key once

A document never gives a key of a table twice: whatever a text is read as, each of its tables, at
every depth, holds each key once (`keysOnce_of_document`). The tables under construction have this
invariant too, and every edit keeps it: an edit looks for the key before it adds one. -/

namespace WmConfig.Toml

/-- Every table in the value holds each of its keys once. -/
inductive Value.KeysOnce : Value → Prop
  | string (text : String) : KeysOnce (.string text)
  | integer (n : Int) : KeysOnce (.integer n)
  | float (x : Binary64) : KeysOnce (.float x)
  | boolean (b : Bool) : KeysOnce (.boolean b)
  | datetime (d : Datetime) : KeysOnce (.datetime d)
  | array {items : List Value} (items_once : ∀ v ∈ items, KeysOnce v) : KeysOnce (.array items)
  | table {entries : List (String × Value)} (keys_once : (entries.map Prod.fst).Nodup)
      (values_once : ∀ e ∈ entries, KeysOnce e.2) : KeysOnce (.table entries)

/-- Every table in the node holds each of its keys once. -/
inductive Node.KeysOnce : Node → Prop
  | value {v : Value} (value_once : v.KeysOnce) : KeysOnce (.value v)
  | table {origin : Origin} {entries : List (String × Node)}
      (keys_once : (entries.map Prod.fst).Nodup) (nodes_once : ∀ e ∈ entries, KeysOnce e.2) :
      KeysOnce (.table origin entries)
  | tables {items : List (List (String × Node))}
      (keys_once : ∀ t ∈ items, (t.map Prod.fst).Nodup)
      (nodes_once : ∀ t ∈ items, ∀ e ∈ t, KeysOnce e.2) : KeysOnce (.tables items)

/-- A table under construction holds each key once, and so does every table in it. -/
structure Entries.KeysOnce (t : Entries) : Prop where
  keys : (t.map Prod.fst).Nodup
  nodes : ∀ e ∈ t, e.2.KeysOnce

/-- The value of a key line holds each key once. -/
def KeyLine.KeysOnce (line : KeyLine) : Prop := line.value.KeysOnce

/-! ### Look-ups -/

namespace Table

variable {t t' : Table} {key : String}

theorem get?_append : Table.get? (t ++ t') key = (Table.get? t key).or (Table.get? t' key) :=
  List.lookup_append

theorem get?_perm (ht : (t.map Prod.fst).Nodup) (h : t'.Perm t) :
    Table.get? t' key = Table.get? t key := by
  have ht' : (t'.map Prod.fst).Nodup := (h.map Prod.fst).nodup_iff.mpr ht
  refine Option.ext fun v => ?_
  rw [Table.get?, Table.get?, lookup_eq_some_iff ht, lookup_eq_some_iff ht', h.mem_iff]

theorem get?_filter (ht : (t.map Prod.fst).Nodup) (p : String × Value → Bool) :
    Table.get? (t.filter p) key = (Table.get? t key).filter fun v => p (key, v) := by
  have ht' : ((t.filter p).map Prod.fst).Nodup := ht.sublist (List.filter_sublist.map _)
  refine Option.ext fun v => ?_
  rw [Table.get?, lookup_eq_some_iff ht', List.mem_filter, Option.filter_eq_some_iff, Table.get?,
    lookup_eq_some_iff ht]

end Table

/-! ### Edits of tables under construction -/

namespace Entries

theorem KeysOnce.nil : KeysOnce [] := ⟨List.nodup_nil, by simp⟩

theorem KeysOnce.toNode {t : Entries} (h : t.KeysOnce) (origin : Origin) :
    (Node.table origin t).KeysOnce := .table h.keys h.nodes

theorem KeysOnce.ofNode {origin : Origin} {t : Entries} (h : (Node.table origin t).KeysOnce) :
    t.KeysOnce := by
  cases h with
  | table keys nodes => exact ⟨keys, nodes⟩

theorem KeysOnce.toTables {items : List Entries} (h : ∀ t ∈ items, KeysOnce t) :
    (Node.tables items).KeysOnce := .tables (fun t ht => (h t ht).keys) fun t ht => (h t ht).nodes

theorem KeysOnce.ofTables {items : List Entries} (h : (Node.tables items).KeysOnce) :
    ∀ t ∈ items, KeysOnce t := by
  cases h with
  | tables keys nodes => exact fun t ht => ⟨keys t ht, nodes t ht⟩

theorem KeysOnce.append {t : Entries} (h : t.KeysOnce) {key : String} {node : Node}
    (hkey : key ∉ t.map Prod.fst) (hnode : node.KeysOnce) : KeysOnce (t ++ [(key, node)]) := by
  refine ⟨?_, fun e he => ?_⟩
  · rw [List.map_append]
    exact List.Nodup.append h.keys (by simp) (by simpa using hkey)
  · rcases List.mem_append.mp he with he | he
    · exact h.nodes e he
    · rw [List.mem_singleton.mp he]
      exact hnode

theorem KeysOnce.of_lookup {t : Entries} (h : t.KeysOnce) {key : String} {node : Node}
    (hnode : t.lookup key = some node) : node.KeysOnce := by
  obtain ⟨l₁, l₂, rfl, -⟩ := List.lookup_eq_some_iff.mp hnode
  exact h.nodes (key, node) (by simp)

theorem KeysOnce.alter? {key : String} {edit : Option Node → Option Node} {t t' : Entries}
    (ht : t.KeysOnce)
    (hedit : ∀ old new, (∀ node, old = some node → node.KeysOnce) → edit old = some new →
      new.KeysOnce)
    (h : Entries.alter? key edit t = some t') : t'.KeysOnce := by
  refine ⟨?_, fun e he => ?_⟩
  · rw [keys_alter? h]
    split_ifs with hk
    · exact ht.keys
    · exact List.Nodup.append ht.keys (by simp) (by simpa using hk)
  · rcases mem_alter? h e he with hmem | ⟨old, hold, hmem⟩
    · exact ht.nodes e hmem
    · exact hedit old e.2 (fun node hn => ht.nodes _ (hmem node hn)) hold

/-- A way into a node leads to a table that holds each key once, and back from one. -/
theorem KeysOnce.enters {opened self : Origin} {node : Option Node} {t : Entries}
    {back : Entries → Node} (henters : Enters opened node self t back)
    (hnode : ∀ n, node = some n → n.KeysOnce) :
    t.KeysOnce ∧ ∀ t', KeysOnce t' → (back t').KeysOnce := by
  cases henters with
  | missing => exact ⟨.nil, fun t' ht' => ht'.toNode opened⟩
  | table h sub => exact ⟨.ofNode (hnode _ rfl), fun t' ht' => ht'.toNode self⟩
  | last front =>
    have hitems := KeysOnce.ofTables (hnode _ rfl)
    rw [List.forall_mem_append, List.forall_mem_singleton] at hitems
    refine ⟨hitems.2, fun t' ht' => KeysOnce.toTables ?_⟩
    rw [List.forall_mem_append, List.forall_mem_singleton]
    exact ⟨hitems.1, ht'⟩

/-- What keeps the invariant at the end of a path keeps it at its start. -/
theorem KeysOnce.editAt? {opened : Origin} {edit : Origin → Entries → Option Entries}
    (hedit : ∀ self t t', KeysOnce t → edit self t = some t' → KeysOnce t') :
    ∀ {path : List String} {self : Origin} {t t' : Entries}, t.KeysOnce →
      Entries.editAt? opened edit path self t = some t' → t'.KeysOnce
  | [], self, t, t', ht, h => hedit self t t' ht h
  | k :: path, self, t, t', ht, h => by
    rw [editAt?_cons] at h
    refine ht.alter? (fun old new hold hnew => ?_) h
    obtain ⟨self', sub, back, sub', henters, hsub, rfl⟩ := into?_eq_some_iff.mp hnew
    obtain ⟨honce, hback⟩ := KeysOnce.enters henters hold
    exact hback sub' (honce.editAt? hedit hsub)

theorem KeysOnce.put? {line : KeyLine} {t t' : Entries} (hline : line.KeysOnce) (ht : t.KeysOnce)
    (h : Entries.put? line t = some t') : t'.KeysOnce := by
  refine ht.editAt? (fun self t t' ht h => ?_) h
  obtain ⟨-, hkey, rfl⟩ := KeyLine.putHere_eq_some_iff.mp h
  exact ht.append (lookup_eq_none_iff.mp hkey) (.value hline)

theorem KeysOnce.putAll? {lines : List KeyLine} {t t' : Entries}
    (hlines : ∀ line ∈ lines, line.KeysOnce) (ht : t.KeysOnce)
    (h : Entries.putAll? lines t = some t') : t'.KeysOnce := by
  induction lines generalizing t with
  | nil => exact Option.some.inj h ▸ ht
  | cons line lines ih =>
    obtain ⟨t₁, h₁, h₂⟩ := Option.bind_eq_some_iff.mp h
    exact ih (fun l hl => hlines l (List.mem_cons_of_mem _ hl))
      (ht.put? (hlines line List.mem_cons_self) h₁) h₂

/-- What a header makes of what stands at its key. -/
theorem KeysOnce.open? {b : Block} {node : Option Node} {new : Node}
    (hlines : ∀ line ∈ b.lines, line.KeysOnce) (hnode : ∀ n, node = some n → n.KeysOnce)
    (h : b.open? node = some new) : new.KeysOnce := by
  obtain ⟨t, back, t', hstarts, ht', rfl⟩ := Block.open?_eq_some_iff.mp h
  cases hstarts with
  | first =>
    exact KeysOnce.toTables (List.forall_mem_singleton.mpr (KeysOnce.nil.putAll? hlines ht'))
  | new => exact (KeysOnce.nil.putAll? hlines ht').toNode _
  | implied _ sub => exact ((KeysOnce.ofNode (hnode _ rfl)).putAll? hlines ht').toNode _
  | next _ items =>
    refine KeysOnce.toTables ?_
    rw [List.forall_mem_append, List.forall_mem_singleton]
    exact ⟨KeysOnce.ofTables (hnode _ rfl), KeysOnce.nil.putAll? hlines ht'⟩

theorem KeysOnce.addHere {b : Block} {t t' : Entries} (hlines : ∀ line ∈ b.lines, line.KeysOnce)
    (ht : t.KeysOnce) (h : b.addHere t = some t') : t'.KeysOnce := by
  rw [Block.addHere] at h
  split_ifs at h
  · exact ht.alter? (fun old new hold hnew => KeysOnce.open? hlines hold hnew) h
  · obtain ⟨node, hnode, rfl⟩ := Option.map_eq_some_iff.mp h
    have hothers : KeysOnce (t.filter (·.1 != b.header.key)) :=
      ⟨ht.keys.sublist (List.filter_sublist.map _),
        fun e he => ht.nodes e (List.mem_filter.mp he).1⟩
    exact hothers.append (lookup_eq_none_iff.mp (lookup_filter_self _ _))
      (KeysOnce.open? hlines (fun n hn => ht.of_lookup hn) hnode)

theorem KeysOnce.addTable? {b : Block} {root root' : Entries}
    (hlines : ∀ line ∈ b.lines, line.KeysOnce) (hroot : root.KeysOnce)
    (h : Entries.addTable? b.header b.lines root = some root') : root'.KeysOnce := by
  rw [addTable?_eq] at h
  exact hroot.editAt? (fun _ t t' ht h => ht.addHere hlines h) h

end Entries

/-! ### Finished values -/

theorem Entries.toTable_eq_map :
    ∀ t : Entries, Entries.toTable t = t.map fun e => (e.1, e.2.toValue)
  | [] => rfl
  | (key, node) :: rest => by rw [Entries.toTable, toTable_eq_map rest]; rfl

theorem Entries.toItems_eq_map :
    ∀ items : List Entries, Entries.toItems items = items.map fun t => .table (Entries.toTable t)
  | [] => rfl
  | t :: rest => by rw [Entries.toItems, toItems_eq_map rest]; rfl

theorem Entries.keys_toTable (t : Entries) : (Entries.toTable t).map Prod.fst = t.map Prod.fst := by
  rw [Entries.toTable_eq_map, List.map_map]; rfl

theorem Value.KeysOnce.ofNodes {t : Entries} (keys : (t.map Prod.fst).Nodup)
    (values : ∀ e ∈ t, e.2.toValue.KeysOnce) : (Value.table (Entries.toTable t)).KeysOnce := by
  refine .table (by rwa [Entries.keys_toTable]) fun e he => ?_
  rw [Entries.toTable_eq_map] at he
  obtain ⟨e', he', rfl⟩ := List.mem_map.mp he
  exact values e' he'

theorem Node.KeysOnce.toValue {node : Node} (h : node.KeysOnce) : node.toValue.KeysOnce := by
  induction h with
  | value h =>
    rw [Node.toValue]
    exact h
  | table keys _ ih =>
    rw [Node.toValue]
    exact .ofNodes keys ih
  | tables keys _ ih =>
    rw [Node.toValue, Entries.toItems_eq_map]
    refine .array fun v hv => ?_
    obtain ⟨t, ht, rfl⟩ := List.mem_map.mp hv
    exact .ofNodes (keys t ht) (ih t ht)

theorem Entries.KeysOnce.toTable {t : Entries} (h : t.KeysOnce) :
    (Value.table (Entries.toTable t)).KeysOnce :=
  .ofNodes h.keys fun e he => (h.nodes e he).toValue

/-! ### Readers -/

/-- What the reader reads has the property. -/
def Yields {α : Type} (read? : List Char → Option (α × List Char)) (P : α → Prop) : Prop :=
  ∀ cs a rest, read? cs = some (a, rest) → P a

theorem keysOnce_ofWord {word : List Char} {v : Value} (h : Scalar.ofWord? word = some v) :
    v.KeysOnce := by
  rw [Scalar.ofWord?] at h
  split_ifs at h
  · rw [← Option.some.inj h]; exact .boolean _
  · rw [← Option.some.inj h]; exact .boolean _
  · simp only [Option.orElse_eq_orElse, Option.orElse_eq_or, Option.or_eq_some_iff,
      Option.map_eq_some_iff] at h
    rcases h with ⟨d, -, rfl⟩ | ⟨-, ⟨n, -, rfl⟩ | ⟨-, x, -, rfl⟩⟩
    · exact .datetime d
    · exact .integer n
    · exact .float x

theorem yields_scalar : Yields Scalar.read? Value.KeysOnce := by
  intro cs v rest h
  rw [Scalar.read?] at h
  split at h
  · split_ifs at h
    · obtain ⟨d, -, hd⟩ := Option.map_eq_some_iff.mp h
      rw [← (Prod.mk.inj hd).1]; exact .datetime d
    · obtain ⟨w, hw, hv⟩ := Option.map_eq_some_iff.mp h
      rw [← (Prod.mk.inj hv).1]; exact keysOnce_ofWord hw
  · obtain ⟨w, hw, hv⟩ := Option.map_eq_some_iff.mp h
    rw [← (Prod.mk.inj hv).1]; exact keysOnce_ofWord hw

namespace Syntax

variable {item? : List Char → Option (Value × List Char)}

theorem yields_items (hitem : Yields item? Value.KeysOnce) :
    ∀ limit, Yields (items? item? limit) fun vs => ∀ v ∈ vs, v.KeysOnce
  | 0, _, _, _, h => by simp [items?] at h
  | limit + 1, cs, vs, rest, h => by
    rw [items?] at h
    split at h
    · rw [← (Prod.mk.inj (Option.some.inj h)).1]; simp
    · obtain ⟨⟨v, cs₁⟩, hv, h⟩ := Option.bind_eq_some_iff.mp h
      have hone := hitem _ _ _ hv
      simp only at h
      split at h
      · rw [← (Prod.mk.inj (Option.some.inj h)).1]; simpa using hone
      · obtain ⟨⟨vs', cs₂⟩, hvs, h⟩ := Option.bind_eq_some_iff.mp h
        rw [← (Prod.mk.inj (Option.some.inj h)).1]
        exact List.forall_mem_cons.mpr ⟨hone, yields_items hitem limit _ _ _ hvs⟩
      · simp at h

theorem yields_pairs (hitem : Yields item? Value.KeysOnce) :
    ∀ limit, Yields (pairs? item? limit) fun lines => ∀ line ∈ lines, line.KeysOnce
  | 0, _, _, _, h => by simp [pairs?] at h
  | limit + 1, cs, lines, rest, h => by
    obtain ⟨⟨⟨parents, key⟩, cs₁⟩, -, h⟩ := Option.bind_eq_some_iff.mp h
    obtain ⟨⟨v, cs₂⟩, hv, h⟩ := Option.bind_eq_some_iff.mp h
    have hone : KeyLine.KeysOnce ⟨parents, key, v⟩ := hitem _ _ _ hv
    simp only at h
    split at h
    · rw [← (Prod.mk.inj (Option.some.inj h)).1]; simpa using hone
    · obtain ⟨⟨lines', cs₃⟩, hlines, h⟩ := Option.bind_eq_some_iff.mp h
      rw [← (Prod.mk.inj (Option.some.inj h)).1]
      exact List.forall_mem_cons.mpr ⟨hone, yields_pairs hitem limit _ _ _ hlines⟩
    · simp at h

theorem yields_inlineTable (hitem : Yields item? Value.KeysOnce) :
    Yields (inlineTable? item?) Value.KeysOnce := by
  intro cs v rest h
  rw [inlineTable?] at h
  split at h
  · rw [← (Prod.mk.inj (Option.some.inj h)).1]
    exact .table List.nodup_nil (by simp)
  · obtain ⟨⟨lines, cs₁⟩, hlines, h⟩ := Option.bind_eq_some_iff.mp h
    obtain ⟨t, ht, h⟩ := Option.bind_eq_some_iff.mp h
    rw [← (Prod.mk.inj (Option.some.inj h)).1]
    exact (Entries.KeysOnce.nil.putAll? (yields_pairs hitem _ _ _ _ hlines) ht).toTable

theorem yields_value : ∀ depth, Yields (value? depth) Value.KeysOnce
  | depth, cs, v, rest, h => by
    rw [value?.eq_def] at h
    split at h
    · obtain ⟨⟨vs, cs₁⟩, hvs, hv⟩ := Option.map_eq_some_iff.mp h
      rw [← (Prod.mk.inj hv).1]
      exact .array (yields_items (yields_value _) _ _ _ _ hvs)
    · exact yields_inlineTable (yields_value _) _ _ _ h
    · split at h
      · obtain ⟨⟨text, cs₁⟩, -, hv⟩ := Option.map_eq_some_iff.mp h
        rw [← (Prod.mk.inj hv).1]
        exact .string _
      · obtain ⟨⟨text, cs₁⟩, -, hv⟩ := Option.map_eq_some_iff.mp h
        rw [← (Prod.mk.inj hv).1]
        exact .string _
      · exact yields_scalar _ _ _ h

theorem yields_keyLine : Yields keyLine? KeyLine.KeysOnce := by
  intro cs line rest h
  obtain ⟨⟨⟨parents, key⟩, cs₁⟩, -, h⟩ := Option.bind_eq_some_iff.mp h
  obtain ⟨⟨v, cs₂⟩, hv, h⟩ := Option.bind_eq_some_iff.mp h
  obtain ⟨cs₃, -, h⟩ := Option.bind_eq_some_iff.mp h
  rw [← (Prod.mk.inj (Option.some.inj h)).1]
  exact yields_value _ _ _ _ hv

theorem keysOnce_of_expressionsWithin :
    ∀ {limit : Nat} {cs : List Char} {es : List Expression}, expressionsWithin? limit cs = some es →
      ∀ line, .keyLine line ∈ es → line.KeysOnce
  | 0, cs, es, h => by
    rw [expressionsWithin?] at h
    split_ifs at h
    rw [← Option.some.inj h]; simp
  | limit + 1, cs, es, h => by
    rw [expressionsWithin?] at h
    split at h
    · rw [← Option.some.inj h]; simp
    · exact keysOnce_of_expressionsWithin h
    · obtain ⟨cs₁, -, h⟩ := Option.bind_eq_some_iff.mp h
      exact keysOnce_of_expressionsWithin h
    · obtain ⟨⟨header, cs₁⟩, -, h⟩ := Option.bind_eq_some_iff.mp h
      obtain ⟨es', hes, h⟩ := Option.bind_eq_some_iff.mp h
      rw [← Option.some.inj h]
      intro line hline
      exact keysOnce_of_expressionsWithin hes line (by simpa using hline)
    · obtain ⟨⟨first, cs₁⟩, hfirst, h⟩ := Option.bind_eq_some_iff.mp h
      obtain ⟨es', hes, h⟩ := Option.bind_eq_some_iff.mp h
      rw [← Option.some.inj h]
      intro line hline
      rcases List.mem_cons.mp hline with heq | hline
      · rw [Expression.keyLine.inj heq]
        exact yields_keyLine _ _ _ hfirst
      · exact keysOnce_of_expressionsWithin hes line hline

end Syntax

/-! ### Documents -/

theorem mem_blocks : ∀ {es : List Expression} {line : KeyLine},
    (line ∈ (blocks es).1 ∨ ∃ b ∈ (blocks es).2, line ∈ b.lines) → .keyLine line ∈ es
  | [], line, h => by simp [blocks] at h
  | .keyLine first :: es, line, h => by
    rw [blocks] at h
    rcases h with h | h
    · rcases List.mem_cons.mp h with rfl | h
      · exact List.mem_cons_self
      · exact List.mem_cons_of_mem _ (mem_blocks (Or.inl h))
    · exact List.mem_cons_of_mem _ (mem_blocks (Or.inr h))
  | .header header :: es, line, h => by
    rw [blocks] at h
    rcases h with h | ⟨b, hb, h⟩
    · simp at h
    · rcases List.mem_cons.mp hb with rfl | hb
      · exact List.mem_cons_of_mem _ (mem_blocks (Or.inl h))
      · exact List.mem_cons_of_mem _ (mem_blocks (Or.inr ⟨b, hb, h⟩))

theorem Entries.KeysOnce.addTables {bs : List Block} {root root' : Entries}
    (hroot : root.KeysOnce) (hlines : ∀ b ∈ bs, ∀ line ∈ b.lines, line.KeysOnce)
    (h : bs.foldlM (fun root b => Entries.addTable? b.header b.lines root) root = some root') :
    root'.KeysOnce := by
  induction bs generalizing root with
  | nil => exact Option.some.inj h ▸ hroot
  | cons b bs ih =>
    obtain ⟨next, hnext, h⟩ := Option.bind_eq_some_iff.mp h
    exact ih (hroot.addTable? (hlines b List.mem_cons_self) hnext)
      (fun b hb => hlines b (List.mem_cons_of_mem _ hb)) h

theorem keysOnce_of_assemble {es : List Expression} {t : Table}
    (hes : ∀ line, .keyLine line ∈ es → line.KeysOnce) (h : assemble? es = some t) :
    (Value.table t).KeysOnce := by
  obtain ⟨root, hroot, h⟩ := Option.bind_eq_some_iff.mp h
  obtain ⟨root', hroot', h⟩ := Option.bind_eq_some_iff.mp h
  have hfirst : root.KeysOnce :=
    Entries.KeysOnce.nil.putAll? (fun line hl => hes line (mem_blocks (Or.inl hl))) hroot
  have hlines : ∀ b ∈ (blocks es).2, ∀ line ∈ b.lines, line.KeysOnce :=
    fun b hb line hl => hes line (mem_blocks (Or.inr ⟨b, hb, hl⟩))
  rw [← Option.some.inj h]
  exact (hfirst.addTables hlines hroot').toTable

theorem keysOnce_of_parse {text : String} {t : Table} (h : parse? text = some t) :
    (Value.table t).KeysOnce := by
  obtain ⟨es, hes, h⟩ := Option.bind_eq_some_iff.mp h
  exact keysOnce_of_assemble (fun line hl => Syntax.keysOnce_of_expressionsWithin hes line hl) h

/-! ### Dates as tables -/

theorem keys_entriesWithDates : ∀ {t t' : Table}, Value.entriesWithDates? t = some t' →
    t'.map Prod.fst = t.map Prod.fst
  | [], t', h => by rw [← Option.some.inj h]
  | (key, v) :: rest, t', h => by
    obtain ⟨v', -, h⟩ := Option.bind_eq_some_iff.mp h
    obtain ⟨rest', hrest, h⟩ := Option.bind_eq_some_iff.mp h
    rw [← Option.some.inj h]
    simp [keys_entriesWithDates hrest]

theorem mem_entriesWithDates : ∀ {t t' : Table}, Value.entriesWithDates? t = some t' →
    ∀ e' ∈ t', ∃ e ∈ t, e.1 = e'.1 ∧ e.2.withDates? = some e'.2
  | [], t', h, e', he' => by
    rw [← Option.some.inj h] at he'; simp at he'
  | (key, v) :: rest, t', h, e', he' => by
    obtain ⟨v', hv, h⟩ := Option.bind_eq_some_iff.mp h
    obtain ⟨rest', hrest, h⟩ := Option.bind_eq_some_iff.mp h
    rw [← Option.some.inj h] at he'
    rcases List.mem_cons.mp he' with rfl | he'
    · exact ⟨(key, v), List.mem_cons_self, rfl, hv⟩
    · obtain ⟨e, he, hkey, hval⟩ := mem_entriesWithDates hrest e' he'
      exact ⟨e, List.mem_cons_of_mem _ he, hkey, hval⟩

theorem mem_itemsWithDates : ∀ {items items' : List Value},
    Value.itemsWithDates? items = some items' → ∀ v' ∈ items', ∃ v ∈ items, v.withDates? = some v'
  | [], items', h, v', hv' => by
    rw [← Option.some.inj h] at hv'; simp at hv'
  | v :: vs, items', h, v', hv' => by
    obtain ⟨w, hw, h⟩ := Option.bind_eq_some_iff.mp h
    obtain ⟨ws, hws, h⟩ := Option.bind_eq_some_iff.mp h
    rw [← Option.some.inj h] at hv'
    rcases List.mem_cons.mp hv' with rfl | hv'
    · exact ⟨v, List.mem_cons_self, hw⟩
    · obtain ⟨u, hu, huv⟩ := mem_itemsWithDates hws v' hv'
      exact ⟨u, List.mem_cons_of_mem _ hu, huv⟩

theorem withDates_table {t : Table} {v' : Value} (h : (Value.table t).withDates? = some v') :
    (∃ d, v' = .datetime d) ∨ ∃ t', Value.entriesWithDates? t = some t' ∧ v' = .table t' := by
  match t with
  | [] =>
    rw [← Option.some.inj h]
    exact Or.inr ⟨[], rfl, rfl⟩
  | (key, v) :: rest =>
    rw [Value.withDates?] at h
    split_ifs at h
    · obtain ⟨d, -, rfl⟩ := Option.map_eq_some_iff.mp h
      exact Or.inl ⟨d, rfl⟩
    · obtain ⟨w, hw, h⟩ := Option.bind_eq_some_iff.mp h
      obtain ⟨rest', hrest, h⟩ := Option.bind_eq_some_iff.mp h
      rw [← Option.some.inj h]
      exact Or.inr ⟨(key, w) :: rest', by rw [Value.entriesWithDates?, hw, hrest]; rfl, rfl⟩

theorem Value.KeysOnce.ofDates {t t' : Table} (keys : (t.map Prod.fst).Nodup)
    (values : ∀ e ∈ t, ∀ {v'}, e.2.withDates? = some v' → v'.KeysOnce)
    (h : Value.entriesWithDates? t = some t') : (Value.table t').KeysOnce := by
  refine .table (by rwa [keys_entriesWithDates h]) fun e' he' => ?_
  obtain ⟨e, he, -, hval⟩ := mem_entriesWithDates h e' he'
  exact values e he hval

theorem Value.KeysOnce.withDates {v : Value} (hv : v.KeysOnce) :
    ∀ {v' : Value}, v.withDates? = some v' → v'.KeysOnce := by
  induction hv with
  | array _ ih =>
    intro v' h
    rw [Value.withDates?] at h
    obtain ⟨items', hitems, rfl⟩ := Option.map_eq_some_iff.mp h
    refine .array fun w hw => ?_
    obtain ⟨u, hu, huw⟩ := mem_itemsWithDates hitems w hw
    exact ih u hu huw
  | table keys _ ih =>
    intro v' h
    rcases withDates_table h with ⟨d, rfl⟩ | ⟨t', ht', rfl⟩
    · exact .datetime d
    · exact .ofDates keys ih ht'
  | string text => intro v' h; exact Option.some.inj h ▸ .string text
  | integer n => intro v' h; exact Option.some.inj h ▸ .integer n
  | float x => intro v' h; exact Option.some.inj h ▸ .float x
  | boolean b => intro v' h; exact Option.some.inj h ▸ .boolean b
  | datetime d => intro v' h; exact Option.some.inj h ▸ .datetime d

/-- The document that a text spells, its date forms included. A text is valid if it has one. -/
def document? (text : String) : Option Table := (parse? text).bind Table.withDates?

/-- **Each table of a document holds each key once.** -/
theorem keysOnce_of_document {text : String} {root : Table} (h : document? text = some root) :
    (Value.table root).KeysOnce := by
  obtain ⟨t, ht, hroot⟩ := Option.bind_eq_some_iff.mp h
  have honce := keysOnce_of_parse ht
  cases honce with
  | table keys values => exact .ofDates keys (fun e he => (values e he).withDates) hroot

end WmConfig.Toml
