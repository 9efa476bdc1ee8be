import WmConfig.Proofs.Toml.Keys

/-! # Documents put together from sections

A document may be written section by section: a section has a table of its own, under its header,
or a list of tables, each under a header of the list, or both. The header of a section only changes
what stands at the name of the section (`Edit.Opens`), and so does a key line at the top of the
document, so those of different sections may be mixed in any way (`Edit.exists_all`): only the order
within each section counts.

* `Part`: a section as it is written, with `Part.value?` as what it comes to.
* `exists_document`: a text that is read as sections is the document with just their values. -/

namespace WmConfig.Toml

/-! ### Blocks -/

/-- The expressions of a block. -/
def Block.expressions (b : Block) : List Expression := .header b.header :: b.lines.map .keyLine

theorem blocks_keyLines (lines : List KeyLine) (es : List Expression) :
    blocks (lines.map .keyLine ++ es) = (lines ++ (blocks es).1, (blocks es).2) := by
  induction lines with
  | nil => rfl
  | cons line lines ih => rw [List.map_cons, List.cons_append, blocks, ih]; rfl

theorem blocks_expressions : ∀ bs : List Block, blocks (bs.flatMap Block.expressions) = ([], bs)
  | [] => rfl
  | b :: bs => by
    rw [List.flatMap_cons, Block.expressions, List.cons_append, blocks, blocks_keyLines,
      blocks_expressions bs, List.append_nil]

/-- The blocks of one key. -/
abbrev blocksAt (key : String) (bs : List Block) : List Block := bs.filter (·.header.top == key)

/-- A name picks nothing of what comes from sections of other names. -/
theorem filter_top_eq_nil {α : Type} {top : α → String} {as : List α} {names : List String}
    {key : String} (htop : ∀ a ∈ as, top a ∈ names) (hkey : key ∉ names) :
    as.filter (top · == key) = [] := by
  rw [List.filter_eq_nil_iff]
  exact fun a ha heq => hkey (beq_iff_eq.mp heq ▸ htop a ha)

/-- Of what comes from several sections, one after the other, a name picks what comes from the
section of this name. -/
theorem filter_flatMap {α β : Type} {name : α → String} {top : β → String} {f : α → List β} :
    ∀ {as : List α}, (as.map name).Nodup → (∀ a ∈ as, ∀ b ∈ f a, top b = name a) →
      ∀ {a}, a ∈ as → (as.flatMap f).filter (top · == name a) = f a
  | [], _, _, a, ha => absurd ha List.not_mem_nil
  | first :: as, hnames, htop, a, ha => by
    obtain ⟨hfirst, hrest⟩ := List.forall_mem_cons.mp htop
    obtain ⟨hnew, hnames⟩ := List.nodup_cons.mp hnames
    rw [List.flatMap_cons, List.filter_append]
    rcases List.mem_cons.mp ha with rfl | ha
    · have hself : (f a).filter (top · == name a) = f a :=
        List.filter_eq_self.mpr fun b hb => beq_iff_eq.mpr (hfirst b hb)
      have hothers : ∀ b ∈ as.flatMap f, top b ∈ as.map name := by
        intro b hb
        obtain ⟨a', ha', hb⟩ := List.mem_flatMap.mp hb
        exact hrest a' ha' b hb ▸ List.mem_map_of_mem ha'
      rw [hself, filter_top_eq_nil hothers hnew, List.append_nil]
    · have hfirst' : ∀ b ∈ f first, top b ∈ [name first] := fun b hb =>
        List.mem_singleton.mpr (hfirst b hb)
      have hne : name a ∉ [name first] := fun hmem =>
        hnew (List.mem_singleton.mp hmem ▸ List.mem_map_of_mem ha)
      rw [filter_top_eq_nil hfirst' hne, List.nil_append]
      exact filter_flatMap hnames hrest ha

/-! ### Edits of different keys -/

/-- The edits of one key. -/
abbrev editsAt (key : String) (es : List Edit) : List Edit := es.filter (·.top == key)

theorem editsAt_self (e : Edit) (es : List Edit) :
    editsAt e.top (e :: es) = e :: editsAt e.top es :=
  List.filter_cons_of_pos (beq_self_eq_true _)

theorem editsAt_of_ne {e : Edit} {key : String} (hkey : key ≠ e.top) (es : List Edit) :
    editsAt key (e :: es) = editsAt key es :=
  List.filter_cons_of_neg (by simpa using hkey.symm)

namespace Edit

/-- What stands at a key before and after some edits that are all of this key. -/
inductive Chain : Option Node → List Edit → Option Node → Prop
  | nil (node : Option Node) : Chain node [] node
  | cons {e : Edit} {es : List Edit} {old : Option Node} {new : Node} {last : Option Node}
      (h : e.Opens old new) (hs : Chain (some new) es last) : Chain old (e :: es) last

/-- The first edit acts at its own key, where the chain starts with it, and nowhere else. -/
theorem Chain.step {e : Edit} {es : List Edit} {root next : Entries} {key : String}
    {node : Option Node} (h : Chain (root.lookup key) (editsAt key (e :: es)) node)
    (hnext : e.act? root = some next)
    (hother : ∀ key, key ≠ e.top → next.lookup key = root.lookup key) :
    Chain (next.lookup key) (editsAt key es) node := by
  by_cases hkey : key = e.top
  · subst hkey
    rw [editsAt_self] at h
    cases h with
    | cons hopens hrest =>
      obtain ⟨next', hnext', hnew, -⟩ := hopens root rfl
      obtain rfl := Option.some.inj (hnext.symm.trans hnext')
      rw [hnew]
      exact hrest
  · rw [editsAt_of_ne hkey] at h
    rw [hother key hkey]
    exact h

/-- **Edits of different keys do not meet.** If the edits of each key can be made on their own, then
so can all of them, in the order in which they come. -/
theorem exists_all : ∀ {es : List Edit} {root : Entries},
    (∀ key, ∃ node, Chain (root.lookup key) (editsAt key es) node) →
      ∃ root', es.foldlM (fun root e => e.act? root) root = some root' ∧
        ∀ key node, Chain (root.lookup key) (editsAt key es) node → root'.lookup key = node
  | [], root, _ => by
    refine ⟨root, rfl, fun key node h => ?_⟩
    cases h
    rfl
  | e :: es, root, h => by
    obtain ⟨node, hchain⟩ := h e.top
    rw [editsAt_self] at hchain
    cases hchain with
    | cons hopens =>
      obtain ⟨next, hnext, -, hother⟩ := hopens root rfl
      obtain ⟨root', hroot', hlookup⟩ := exists_all fun key =>
        (h key).imp fun _ hchain => hchain.step hnext hother
      refine ⟨root', ?_, fun key node hchain => hlookup key node (hchain.step hnext hother)⟩
      rw [List.foldlM_cons, hnext]
      exact hroot'

end Edit

theorem editsAt_blocks (key : String) (bs : List Block) :
    editsAt key (bs.map Block.edit) = (blocksAt key bs).map Block.edit := List.filter_map

/-! ### Single blocks -/

/-- A table as key lines. -/
def keyLines (t : Table) : List KeyLine := t.map fun e => ⟨[], e.1, e.2⟩

/-- A table as closed values. -/
def closed (t : Table) : Entries := t.map fun e => (e.1, .value e.2)

theorem toTable_closed (t : Table) : Entries.toTable (closed t) = t := by
  rw [Entries.toTable_eq_map, closed, List.map_map]
  exact List.map_id t

theorem putAll?_keyLines : ∀ {t : Table} {front : Entries},
    ((front ++ closed t).map Prod.fst).Nodup →
      Entries.putAll? (keyLines t) front = some (front ++ closed t)
  | [], front, _ => by simp [keyLines, closed, Entries.putAll?]
  | (key, v) :: t, front, h => by
    have hsplit : front ++ closed ((key, v) :: t) = (front ++ [(key, .value v)]) ++ closed t := by
      simp [closed]
    have hkey : front.lookup key = none := by
      rw [lookup_eq_none_iff]
      rw [List.map_append, List.nodup_append] at h
      exact fun hmem => h.2.2 key hmem key (by simp [closed]) rfl
    have hput : Entries.put? ⟨[], key, v⟩ front = some (front ++ [(key, .value v)]) := by
      simp only [Entries.put?, Entries.editAt?, hkey]
      rfl
    rw [hsplit] at h ⊢
    rw [← putAll?_keyLines h, Entries.putAll?, keyLines, List.map_cons, List.foldlM_cons, hput]
    rfl

theorem putAll?_nil {t : Table} (ht : (t.map Prod.fst).Nodup) :
    Entries.putAll? (keyLines t) [] = some (closed t) := by
  have hkeys : ((([] : Entries) ++ closed t).map Prod.fst).Nodup := by
    rwa [List.nil_append, ← Entries.keys_toTable, toTable_closed]
  exact putAll?_keyLines hkeys

/-- The list of a section, not there while it is empty. -/
def listed (key : String) (items : List Table) : Entries :=
  if items.isEmpty then [] else [(key, .tables (items.map closed))]

theorem alter?_listed (own : Table) {key : String} (hkey : key ∉ own.map Prod.fst) (t : Table)
    (items : List Table) {edit : Option Node → Option Node}
    (hnone : edit none = some (.tables [closed t]))
    (hsome : ∀ items, edit (some (.tables items)) = some (.tables (items ++ [closed t]))) :
    Entries.alter? key edit (closed own ++ listed key items) =
      some (closed own ++ listed key (items ++ [t])) := by
  have hfront : key ∉ (closed own).map Prod.fst := by
    rwa [← Entries.keys_toTable, toTable_closed]
  rw [Entries.alter?_append hfront]
  cases items with
  | nil =>
    change Option.map _ ((edit none).map _) = _
    rw [hnone]
    rfl
  | cons first items =>
    change Option.map _ (Entries.alter? key edit [(key, .tables ((first :: items).map closed))]) = _
    rw [Entries.alter?, if_pos rfl, hsome, ← List.map_singleton, ← List.map_append]
    rfl

/-- The header of a section opens the table of the section. -/
theorem opens_own (name : String) {t : Table} (ht : (t.map Prod.fst).Nodup) :
    (Block.edit ⟨⟨[], name, false⟩, keyLines t⟩).Opens none (.table .header (closed t)) :=
  (Block.acts _).opens _ _
    (Block.open?_eq_some_iff.mpr ⟨_, _, _, .new rfl, putAll?_nil ht, rfl⟩)

/-- What the header of a list does in the table of the section. -/
theorem addHere_listed {name key : String} {own t : Table} (ht : (t.map Prod.fst).Nodup)
    (hkey : key ∉ own.map Prod.fst) (items : List Table) :
    Block.addHere ⟨⟨[name], key, true⟩, keyLines t⟩ (closed own ++ listed key items) =
      some (closed own ++ listed key (items ++ [t])) :=
  alter?_listed own hkey t items
    (Block.open?_eq_some_iff.mpr ⟨_, _, _, .first rfl, putAll?_nil ht, rfl⟩)
    fun items => Block.open?_eq_some_iff.mpr ⟨_, _, _, .next rfl items, putAll?_nil ht, rfl⟩

/-- A header of a list adds a table to the list, in the table of the section that it leads into. -/
theorem opens_listed (name : String) {key : String} {node : Option Node} {origin : Origin}
    {own t : Table} {items : List Table} (ht : (t.map Prod.fst).Nodup)
    (hkey : key ∉ own.map Prod.fst)
    (henters : Entries.Enters .implied node origin (closed own ++ listed key items)
      (.table origin)) :
    (Block.edit ⟨⟨[name], key, true⟩, keyLines t⟩).Opens node
      (.table origin (closed own ++ listed key (items ++ [t]))) := by
  refine (Block.acts _).opens _ _ ?_
  change Entries.into? .implied (fun _ => Block.addHere ⟨⟨[name], key, true⟩, keyLines t⟩) node = _
  exact Entries.into?_eq_some_iff.mpr
    ⟨_, _, _, _, henters, addHere_listed ht hkey items, rfl⟩

/-- The first header of a list implies the table of the section. -/
theorem opens_first (name key : String) {t : Table} (ht : (t.map Prod.fst).Nodup) :
    (Block.edit ⟨⟨[name], key, true⟩, keyLines t⟩).Opens none
      (.table .implied (closed [] ++ listed key [t])) :=
  @opens_listed name key none .implied [] t [] ht List.not_mem_nil .missing

/-- A further header of a list adds a table to the list. -/
theorem opens_next (name : String) {key : String} {origin : Origin} {own t : Table}
    (ht : (t.map Prod.fst).Nodup) (hkey : key ∉ own.map Prod.fst) (items : List Table) :
    (Block.edit ⟨⟨[name], key, true⟩, keyLines t⟩).Opens
      (some (.table origin (closed own ++ listed key items)))
      (.table origin (closed own ++ listed key (items ++ [t]))) :=
  opens_listed name ht hkey (.table (by simp) _)

theorem chain_items (name : String) {key : String} (origin : Origin) {own : Table}
    (hkey : key ∉ own.map Prod.fst) : ∀ {items : List Table} (front : List Table),
      (∀ t ∈ items, (t.map Prod.fst).Nodup) →
        Edit.Chain (some (.table origin (closed own ++ listed key front)))
          ((items.map fun t => ⟨⟨[name], key, true⟩, keyLines t⟩).map Block.edit)
          (some (.table origin (closed own ++ listed key (front ++ items))))
  | [], front, _ => by
    rw [List.append_nil]
    exact .nil _
  | t :: items, front, h => by
    have hrest := chain_items name origin hkey (front ++ [t])
      fun t' ht' => h t' (List.mem_cons_of_mem _ ht')
    rw [List.append_assoc, List.singleton_append] at hrest
    exact .cons (opens_next name (h t List.mem_cons_self) hkey front) hrest

/-! ### Sections -/

/-- A section as it is written. -/
structure Part where
  /-- The name of the section. -/
  name : String
  /-- The table under the header of the section, if it has one. -/
  own : Option Table
  /-- The key of the list of the section. -/
  key : String
  /-- The tables of the list. -/
  items : List Table

/-- A table that holds each key once, and nothing that stands for a date form. -/
structure Table.Settled (t : Table) : Prop where
  keys : (t.map Prod.fst).Nodup
  unreserved : ∀ e ∈ t, e.1 ≠ reservedDateKey
  dates : ∀ e ∈ t, e.2.withDates? = some e.2

theorem Table.Settled.perm {t t' : Table} (ht : t.Settled) (hperm : t.Perm t') : t'.Settled where
  keys := (hperm.map Prod.fst).nodup_iff.mp ht.keys
  unreserved e he := ht.unreserved e (hperm.mem_iff.mpr he)
  dates e he := ht.dates e (hperm.mem_iff.mpr he)

namespace Part

/-- The blocks of a section: its own table first, then the tables of its list. -/
def blocks (p : Part) : List Block :=
  (p.own.toList.map fun t => ⟨⟨[], p.name, false⟩, keyLines t⟩) ++
    p.items.map fun t => ⟨⟨[p.name], p.key, true⟩, keyLines t⟩

/-- The list of a section as a table, empty while the list is empty. -/
def list (p : Part) : Table :=
  if p.items.isEmpty then [] else [(p.key, .array (p.items.map .table))]

/-- The table that a section comes to. -/
def table (p : Part) : Table := p.own.getD [] ++ p.list

/-- The value that a section comes to, if any of it is written. -/
def value? (p : Part) : Option Value :=
  if p.own.isNone && p.items.isEmpty then none else some (.table p.table)

/-- A section that can be written. -/
structure Sound (p : Part) : Prop where
  own : (p.own.getD []).Settled
  key : p.key ∉ (p.own.getD []).map Prod.fst
  unreserved : p.key ≠ reservedDateKey
  items : ∀ t ∈ p.items, t.Settled

/-- The same section with the lines of each block in another order. -/
structure Shuffles (p q : Part) : Prop where
  name : q.name = p.name
  key : q.key = p.key
  own : Option.Rel List.Perm p.own q.own
  items : List.Forall₂ List.Perm p.items q.items

variable {p q : Part}

theorem Shuffles.refl (p : Part) : p.Shuffles p := by
  refine ⟨rfl, rfl, ?_, List.forall₂_same.mpr fun t _ => List.Perm.refl t⟩
  cases p.own with
  | none => exact .none
  | some t => exact .some (List.Perm.refl t)

theorem top_blocks (p : Part) : ∀ b ∈ p.blocks, b.header.top = p.name := by
  intro b hb
  rcases List.mem_append.mp hb with hb | hb
  · obtain ⟨t, -, rfl⟩ := List.mem_map.mp hb
    rfl
  · obtain ⟨t, -, rfl⟩ := List.mem_map.mp hb
    rfl

theorem toValue_table (origin : Origin) (p : Part) :
    (Node.table origin (closed (p.own.getD []) ++ listed p.key p.items)).toValue =
      .table p.table := by
  have hlist : Entries.toTable (listed p.key p.items) = p.list := by
    unfold listed list
    split_ifs
    · rfl
    · have hitems : Entries.toItems (p.items.map closed) = p.items.map .table := by
        rw [Entries.toItems_eq_map, List.map_map]
        exact List.map_congr_left fun t _ => by rw [Function.comp_apply, toTable_closed]
      rw [Entries.toTable, Node.toValue, hitems]
      rfl
  rw [Node.toValue, Entries.toTable_eq_map, List.map_append, ← Entries.toTable_eq_map,
    ← Entries.toTable_eq_map, toTable_closed, hlist, table]

/-- The blocks of a section come to its value. -/
theorem Sound.chain_blocks (h : p.Sound) :
    ∃ node, Edit.Chain none (p.blocks.map Block.edit) node ∧ node.map Node.toValue = p.value? := by
  have hitems := fun t ht => (h.items t ht).keys
  have hvalue := fun origin => toValue_table origin p
  obtain ⟨name, own, key, items⟩ := p
  cases own with
  | some t =>
    refine ⟨some (.table .header (closed t ++ listed key items)), ?_, congrArg some (hvalue _)⟩
    have hempty : closed t ++ listed key [] = closed t := List.append_nil _
    have hrest : Edit.Chain (some (.table .header (closed t ++ listed key [])))
        ((items.map fun t => ⟨⟨[name], key, true⟩, keyLines t⟩).map Block.edit)
        (some (.table .header (closed t ++ listed key items))) := chain_items name _ h.key [] hitems
    rw [hempty] at hrest
    exact .cons (opens_own name h.own.keys) hrest
  | none =>
    cases items with
    | nil => exact ⟨none, .nil _, rfl⟩
    | cons t items =>
      refine ⟨some (.table .implied (closed [] ++ listed key (t :: items))), ?_,
        congrArg some (hvalue _)⟩
      refine .cons (opens_first name key (hitems t List.mem_cons_self)) ?_
      exact chain_items name _ h.key [t] fun t' ht' => hitems t' (List.mem_cons_of_mem _ ht')

theorem Sound.get?_table (h : p.Sound) (key : String) :
    Table.get? p.table key = if key = p.key then
      if p.items.isEmpty then none else some (.array (p.items.map .table))
    else Table.get? (p.own.getD []) key := by
  have hlist : Table.get? p.list key = if key = p.key then
      if p.items.isEmpty then none else some (.array (p.items.map .table)) else none := by
    unfold list
    split_ifs with hempty hkey hkey
    · rfl
    · rfl
    · rw [hkey, Table.get?, List.lookup_cons_self]
    · rw [Table.get?, lookup_cons_of_ne hkey, List.lookup_nil]
  rw [table, Table.get?_append, hlist]
  by_cases hkey : key = p.key
  · have hnone : Table.get? (p.own.getD []) key = none := by
      rw [Table.get?, lookup_eq_none_iff, hkey]
      exact h.key
    rw [hnone, Option.none_or, if_pos hkey]
  · rw [if_neg hkey, if_neg hkey, Option.or_none]

theorem Shuffles.own_perm (h : p.Shuffles q) : (p.own.getD []).Perm (q.own.getD []) := by
  have hgetD : ∀ {a b : Option Table}, Option.Rel List.Perm a b → (a.getD []).Perm (b.getD []) := by
    intro a b hab
    cases hab with
    | some hperm => exact hperm
    | none => exact List.Perm.refl _
  exact hgetD h.own

theorem exists_of_mem_right {α β : Type} {R : α → β → Prop} {as : List α} {bs : List β}
    (h : List.Forall₂ R as bs) : ∀ b ∈ bs, ∃ a ∈ as, R a b := by
  induction h with
  | nil => simp
  | cons hab _ ih =>
    refine List.forall_mem_cons.mpr ⟨⟨_, List.mem_cons_self, hab⟩, fun b hb => ?_⟩
    obtain ⟨a, ha, h⟩ := ih b hb
    exact ⟨a, List.mem_cons_of_mem _ ha, h⟩

theorem Sound.shuffle (h : p.Sound) (hpq : p.Shuffles q) : q.Sound := by
  have hown := hpq.own_perm
  refine ⟨h.own.perm hown, ?_, ?_, fun t' ht' => ?_⟩
  · rw [hpq.key]
    exact fun hmem => h.key ((hown.map Prod.fst).mem_iff.mpr hmem)
  · rw [hpq.key]
    exact h.unreserved
  · obtain ⟨t, ht, hperm⟩ := exists_of_mem_right hpq.items t' ht'
    exact (h.items t ht).perm hperm

end Part

/-! ### Documents -/

theorem get?_toTable (t : Entries) (key : String) :
    Table.get? (Entries.toTable t) key = (t.lookup key).map Node.toValue := by
  rw [Entries.toTable_eq_map, Table.get?]
  induction t with
  | nil => rfl
  | cons e t ih =>
    rw [List.map_cons, List.lookup_cons, ih, List.lookup_cons]
    cases key == e.1 <;> rfl

theorem itemsWithDates?_eq_self : ∀ {items : List Value},
    (∀ v ∈ items, v.withDates? = some v) → Value.itemsWithDates? items = some items
  | [], _ => rfl
  | v :: items, h => by
    rw [Value.itemsWithDates?, h v List.mem_cons_self,
      itemsWithDates?_eq_self fun w hw => h w (List.mem_cons_of_mem _ hw)]
    rfl

theorem entriesWithDates?_eq_self : ∀ {t : Table},
    (∀ e ∈ t, e.2.withDates? = some e.2) → Value.entriesWithDates? t = some t
  | [], _ => rfl
  | (key, v) :: t, h => by
    rw [Value.entriesWithDates?, h (key, v) List.mem_cons_self,
      entriesWithDates?_eq_self fun e he => h e (List.mem_cons_of_mem _ he)]
    rfl

theorem withDates?_table {t : Table} (hkeys : ∀ e ∈ t, e.1 ≠ reservedDateKey)
    (hdates : ∀ e ∈ t, e.2.withDates? = some e.2) :
    (Value.table t).withDates? = some (.table t) := by
  cases t with
  | nil => rfl
  | cons e t =>
    rw [Value.withDates?, if_neg (hkeys e List.mem_cons_self), hdates e List.mem_cons_self,
      entriesWithDates?_eq_self fun e' he' => hdates e' (List.mem_cons_of_mem _ he')]
    rfl

theorem Table.Settled.withDates? {t : Table} (ht : t.Settled) :
    (Value.table t).withDates? = some (.table t) := withDates?_table ht.unreserved ht.dates

theorem withDates?_array {items : List Value} (h : ∀ v ∈ items, v.withDates? = some v) :
    (Value.array items).withDates? = some (.array items) := by
  rw [Value.withDates?, itemsWithDates?_eq_self h]
  rfl

theorem Part.Sound.withDates? {p : Part} (h : p.Sound) :
    (Value.table p.table).withDates? = some (.table p.table) := by
  have hlist : ∀ e ∈ p.list, e = (p.key, .array (p.items.map .table)) := by
    intro e he
    unfold Part.list at he
    split_ifs at he
    · cases he
    · exact List.mem_singleton.mp he
  have hitems : (Value.array (p.items.map .table)).withDates? =
      some (.array (p.items.map .table)) := by
    refine withDates?_array fun v hv => ?_
    obtain ⟨t, ht, rfl⟩ := List.mem_map.mp hv
    exact (h.items t ht).withDates?
  refine withDates?_table (fun e he => ?_) fun e he => ?_
  · rcases List.mem_append.mp he with he | he
    · exact h.own.unreserved e he
    · rw [hlist e he]
      exact h.unreserved
  · rcases List.mem_append.mp he with he | he
    · exact h.own.dates e he
    · rw [hlist e he]
      exact hitems

/-- What is done for key lines at the top of a document and blocks below them, one by one. -/
abbrev edits (lines : List KeyLine) (bs : List Block) : List Edit :=
  lines.map KeyLine.edit ++ bs.map Block.edit

theorem assemble?_edits (lines : List KeyLine) (bs : List Block) :
    assemble? (lines.map .keyLine ++ bs.flatMap Block.expressions) =
      ((edits lines bs).foldlM (fun root (e : Edit) => e.act? root) []).map Entries.toTable := by
  simp only [assemble?, blocks_keyLines, blocks_expressions, List.append_nil, edits,
    List.foldlM_append, List.foldlM_map, Option.map_eq_bind, Option.bind_eq_bind, Option.bind_assoc]
  rfl

/-- **A document put together from lines and blocks of different keys.** If those of each key can be
put together on their own, the text that is read as all of them is the document with these values. -/
theorem exists_document_of_edits {lines : List KeyLine} {bs : List Block} {text : String}
    (hread : parse? text = assemble? (lines.map .keyLine ++ bs.flatMap Block.expressions))
    (hchain : ∀ key, ∃ node, Edit.Chain none (editsAt key (edits lines bs)) node ∧
      ∀ v, node.map Node.toValue = some v → v.withDates? = some v) :
    ∃ root, document? text = some root ∧ ∀ key node,
      Edit.Chain none (editsAt key (edits lines bs)) node →
        root.get? key = node.map Node.toValue := by
  obtain ⟨root, hroot, hlookup⟩ := @Edit.exists_all (edits lines bs) [] fun key =>
    (hchain key).imp fun _ h => h.1
  have hget : ∀ key node, Edit.Chain none (editsAt key (edits lines bs)) node →
      Table.get? (Entries.toTable root) key = node.map Node.toValue := by
    intro key node h
    rw [get?_toTable, hlookup key node h]
  have hparse : parse? text = some (Entries.toTable root) := by
    rw [hread, assemble?_edits, hroot]
    rfl
  refine ⟨Entries.toTable root, ?_, hget⟩
  rw [document?, hparse]
  refine entriesWithDates?_eq_self fun e he => ?_
  obtain ⟨node, hnode, hdates⟩ := hchain e.1
  cases keysOnce_of_parse hparse with
  | table keys =>
    exact hdates e.2 ((hget e.1 node hnode).symm.trans ((lookup_eq_some_iff keys).mpr he))

/-- The same, where only the edits of some names have to be looked at: there are no others. -/
theorem exists_document_of_names {lines : List KeyLine} {bs : List Block} {text : String}
    {names : List String}
    (hread : parse? text = assemble? (lines.map .keyLine ++ bs.flatMap Block.expressions))
    (hnamed : ∀ name ∈ names, ∃ node, Edit.Chain none (editsAt name (edits lines bs)) node ∧
      ∀ v, node.map Node.toValue = some v → v.withDates? = some v)
    (hothers : ∀ name ∉ names, editsAt name (edits lines bs) = []) :
    ∃ root, document? text = some root ∧ (∀ name ∉ names, root.get? name = none) ∧
      ∀ name node, Edit.Chain none (editsAt name (edits lines bs)) node →
        root.get? name = node.map Node.toValue := by
  have hnil : ∀ name ∉ names, Edit.Chain none (editsAt name (edits lines bs)) none := by
    intro name hname
    rw [hothers name hname]
    exact .nil _
  obtain ⟨root, hroot, hget⟩ := exists_document_of_edits hread fun name =>
    if hname : name ∈ names then hnamed name hname else ⟨none, hnil name hname, nofun⟩
  exact ⟨root, hroot, fun name hname => hget name none (hnil name hname), hget⟩

/-- **A document put together from sections.** Blocks in any order in which those of each section
come in theirs are read as the document with the values of the sections. -/
theorem exists_document {parts : List Part} {bs : List Block} {text : String}
    (hread : parse? text = assemble? (bs.flatMap Block.expressions))
    (htop : ∀ b ∈ bs, ∃ p ∈ parts, b.header.top = p.name)
    (hparts : ∀ p ∈ parts, p.Sound ∧ blocksAt p.name bs = p.blocks) :
    ∃ root, document? text = some root ∧ ∀ p ∈ parts, root.get? p.name = p.value? := by
  have hsection : ∀ p ∈ parts, ∃ node, Edit.Chain none (editsAt p.name (edits [] bs)) node ∧
      node.map Node.toValue = p.value? := by
    intro p hp
    obtain ⟨node, hnode, hvalue⟩ := (hparts p hp).1.chain_blocks
    refine ⟨node, ?_, hvalue⟩
    rwa [edits, List.map_nil, List.nil_append, editsAt_blocks, (hparts p hp).2]
  have htop' : ∀ b ∈ bs, b.header.top ∈ parts.map Part.name := by
    intro b hb
    obtain ⟨p, hp, hname⟩ := htop b hb
    exact hname ▸ List.mem_map_of_mem hp
  have hnamed : ∀ name ∈ parts.map Part.name, ∃ node,
      Edit.Chain none (editsAt name (edits [] bs)) node ∧
        ∀ v, node.map Node.toValue = some v → v.withDates? = some v := by
    intro name hname
    obtain ⟨p, hp, rfl⟩ := List.mem_map.mp hname
    obtain ⟨node, hnode, hvalue⟩ := hsection p hp
    refine ⟨node, hnode, fun v hv => ?_⟩
    rw [hvalue, Part.value?] at hv
    split_ifs at hv
    rw [← Option.some.inj hv]
    exact (hparts p hp).1.withDates?
  have hothers : ∀ name ∉ parts.map Part.name, editsAt name (edits [] bs) = [] := by
    intro name hname
    have hnone : blocksAt name bs = [] := filter_top_eq_nil htop' hname
    rw [edits, List.map_nil, List.nil_append, editsAt_blocks, hnone, List.map_nil]
  obtain ⟨root, hroot, -, hget⟩ := exists_document_of_names hread hnamed hothers
  refine ⟨root, hroot, fun p hp => ?_⟩
  obtain ⟨node, hnode, hvalue⟩ := hsection p hp
  rw [hget p.name node hnode, hvalue]

end WmConfig.Toml
