import WmConfig.Proofs.Toml.Taken

/-! # A value replaced or left out

The value of one key of a section makes no difference to the rest of a document: if the document can
be put together, then so can it with another value at the key, and without the key, and all other
values are the same. A key of a section gets its value below the header of the section, by a dotted
key at the top of the document, or in an inline table there (`exists_replaced_below`,
`exists_replaced_dotted`, `exists_replaced_inline`).

The two documents are put together side by side. What stands at the section in the one and in the
other stays a `Twin` in each step; the only difference beside the value is that a section with no
other key is missing when this one is left out. -/

namespace WmConfig.Toml

/-! ### Entries with another value -/

/-- The entries with another value at the key, or without the key. -/
def assign {α : Type} (key : String) (new : Option α) (l : List (String × α)) : List (String × α) :=
  l.filterMap fun e => if e.1 = key then new.map (key, ·) else some e

section Assign
variable {α : Type} {key k : String} {new : Option α} {l : List (String × α)}

theorem assign_cons (key : String) (new : Option α) (e : String × α) (l : List (String × α)) :
    assign key new (e :: l) =
      (if e.1 = key then (new.map (key, ·)).toList else [e]) ++ assign key new l := by
  rw [assign, List.filterMap_cons]
  split_ifs
  · cases new <;> rfl
  · rfl

theorem assign_append (key : String) (new : Option α) (l l' : List (String × α)) :
    assign key new (l ++ l') = assign key new l ++ assign key new l' := List.filterMap_append

theorem assign_of_lookup (h : l.lookup key = none) : assign key new l = l := by
  rw [lookup_eq_none_iff] at h
  refine (List.filterMap_congr fun e he => if_neg ?_).trans List.filterMap_some
  rintro rfl
  exact h (List.mem_map_of_mem he)

theorem lookup_assign_of_ne (hk : k ≠ key) : (assign key new l).lookup k = l.lookup k := by
  induction l with
  | nil => rfl
  | cons e l ih =>
    rw [assign_cons, List.lookup_cons, List.lookup_append, ih]
    split_ifs with he
    · have hne : (k == e.1) = false := by simpa [he] using hk
      rw [hne]
      cases new with
      | none => rfl
      | some a => rw [Option.map_some, Option.toList_some, lookup_cons_of_ne hk]; rfl
    · rw [List.lookup_cons, List.lookup_nil]
      cases k == e.1 <;> rfl

theorem lookup_assign_self : (assign key new l).lookup key = (l.lookup key).bind fun _ => new := by
  induction l with
  | nil => rfl
  | cons e l ih =>
    rw [assign_cons, List.lookup_cons, List.lookup_append, ih]
    split_ifs with he
    · have heq : (key == e.1) = true := by simp [he]
      rw [heq]
      cases new with
      | none => exact Option.bind_fun_none _
      | some a => rw [Option.map_some, Option.toList_some, List.lookup_cons_self]; rfl
    · rw [List.lookup_cons, List.lookup_nil, show (key == e.1) = false by simpa using Ne.symm he]
      rfl

theorem keys_assign (key : String) (a : α) (l : List (String × α)) :
    (assign key (some a) l).map Prod.fst = l.map Prod.fst := by
  induction l with
  | nil => rfl
  | cons e l ih =>
    rw [assign_cons, List.map_append, ih, List.map_cons]
    split_ifs with he
    · rw [he]
      rfl
    · rfl

end Assign

namespace Entries

variable {key k : String} {new : Option Value} {t t' : Entries}

/-- A table under construction with another value at the key, or without the key. -/
abbrev replace (key : String) (new : Option Value) (t : Entries) : Entries :=
  assign key (new.map Node.value) t

theorem toTable_replace (key : String) (new : Option Value) (t : Entries) :
    toTable (replace key new t) = assign key new (toTable t) := by
  rw [toTable_eq_map, toTable_eq_map, replace, assign, assign, List.map_filterMap,
    List.filterMap_map]
  refine List.filterMap_congr fun e _ => ?_
  rw [Function.comp_apply]
  split_ifs
  · cases new with
    | none => rfl
    | some v => exact congrArg (fun v => some (key, v)) (by rw [Node.toValue])
  · rfl

theorem alter?_replace {edit : Option Node → Option Node} (hk : k ≠ key) :
    ∀ {t t' : Entries}, alter? k edit t = some t' →
      alter? k edit (replace key new t) = some (replace key new t')
  | [], t', h => by
    obtain ⟨node, hnode, rfl⟩ := Option.map_eq_some_iff.mp h
    rw [replace, replace, assign_cons, if_neg hk]
    exact Option.map_eq_some_iff.mpr ⟨node, hnode, rfl⟩
  | (k', node) :: t, t', h => by
    rw [alter?] at h
    split_ifs at h with hkey
    · subst hkey
      obtain ⟨node', hnode', rfl⟩ := Option.map_eq_some_iff.mp h
      rw [replace, replace, assign_cons, assign_cons, if_neg hk, if_neg hk, List.singleton_append,
        alter?, if_pos rfl, hnode']
      rfl
    · obtain ⟨rest, hrest, rfl⟩ := Option.map_eq_some_iff.mp h
      have hnext := alter?_replace hk hrest
      rw [replace, replace, assign_cons, assign_cons, alter?_append, hnext]
      · rfl
      · show k ∉ _
        split_ifs with he
        · cases new with
          | none => exact List.not_mem_nil
          | some v => exact fun hmem => hk (List.mem_singleton.mp hmem)
        · exact fun hmem => hkey (List.mem_singleton.mp hmem).symm

end Entries

/-! ### Twins -/

/-- What stands at the section in the one document and in the other. `opened` is how a path opens
tables from now on. -/
inductive Twin (key : String) (new : Option Value) (opened : Origin) :
    Option Node → Option Node → Prop
  | inline {t : Table} (h : (t.get? key).isSome) :
      Twin key new opened (some (.value (.table t))) (some (.value (.table (assign key new t))))
  | table {origin origin' : Origin} {t : Entries} (h : Entries.Takes .value [key] t)
      (horigin : origin ≠ .implied) (hsame : opened = .dotted → origin' = origin) :
      Twin key new opened (some (.table origin t))
        (some (.table origin' (Entries.replace key new t)))
  | missing {t : Entries} (h : Entries.Takes .value [key] t)
      (hnone : Entries.replace key new t = []) :
      Twin key new opened (some (.table .dotted t)) none

/-- An edit of a table in which the key is taken can be made whatever the value of the key is. The
table may be of another origin if this makes no difference. -/
def Origin.Keeps (opened : Origin) (key : String) (new : Option Value)
    (edit : Origin → Entries → Option Entries) : Prop :=
  ∀ ⦃self self' t t'⦄, (opened = .dotted → self' = self) → Entries.Takes .value [key] t →
    edit self t = some t' → Entries.Takes .value [key] t' ∧
      edit self' (Entries.replace key new t) = some (Entries.replace key new t')

section Twin
variable {key : String} {new : Option Value} {opened : Origin}
  {edit : Origin → Entries → Option Entries} {a b : Option Node} {a' : Node}

theorem Entries.Takes.exists_lookup {t : Entries} (h : Entries.Takes .value [key] t) :
    ∃ v, t.lookup key = some (.value v) := by
  cases h with
  | value h => exact ⟨_, h⟩
  | header _ hu => cases hu
  | table _ hs | tables _ _ hs => exact absurd rfl hs.ne_nil

theorem Entries.Takes.of_others {t t' : Entries} {k : String} (h : Entries.Takes .value [key] t)
    (hne : k ≠ key) (hothers : ∀ k', k' ≠ k → t'.lookup k' = t.lookup k') :
    Entries.Takes .value [key] t' := h.of_lookup (hothers key (Ne.symm hne))

theorem Origin.Keeps.editAt? (h : opened.Keeps key new edit) :
    ∀ path, opened.Keeps key new (Entries.editAt? opened edit path)
  | [] => h
  | k :: path => by
    intro self self' t t' _ ht hstep
    rw [Entries.editAt?_cons] at hstep ⊢
    obtain ⟨v, hv⟩ := ht.exists_lookup
    have hk : k ≠ key := by
      rintro rfl
      rw [Entries.alter?_eq_none (by rw [hv]; rfl)] at hstep
      cases hstep
    exact ⟨ht.of_others hk (Entries.lookup_alter? hstep).2, Entries.alter?_replace hk hstep⟩

theorem KeyLine.keeps_putHere (line : KeyLine) : Origin.dotted.Keeps key new line.putHere := by
  intro self self' t t' hself ht hput
  rw [hself rfl]
  obtain ⟨horigin, hlookup, rfl⟩ := KeyLine.putHere_eq_some_iff.mp hput
  have hkey : line.key ≠ key := by
    rintro rfl
    exact Option.isSome_iff_ne_none.mp ht.isSome_lookup hlookup
  refine ⟨ht.of_others hkey fun k hk => (KeyLine.lookup_putHere hput k).trans (if_neg hk), ?_⟩
  rw [Entries.replace, Entries.replace, assign_append, assign_cons, if_neg hkey]
  exact KeyLine.putHere_eq_some_iff.mpr
    ⟨horigin, (lookup_assign_of_ne hkey).trans hlookup, rfl⟩

theorem Block.addHere_replace {b : Block} {t t' : Entries} (hkey : b.header.key ≠ key)
    (h : b.addHere t = some t') :
    b.addHere (Entries.replace key new t) = some (Entries.replace key new t') := by
  rw [Block.addHere] at h ⊢
  split_ifs at h ⊢
  · exact Entries.alter?_replace hkey h
  · obtain ⟨node, hnode, rfl⟩ := Option.map_eq_some_iff.mp h
    rw [Entries.replace, Entries.replace, lookup_assign_of_ne hkey, hnode, Option.map_some,
      assign_append, assign_cons, if_neg hkey]
    have hfilter : (assign key (new.map Node.value) t).filter (·.1 != b.header.key) =
        assign key (new.map Node.value) (t.filter (·.1 != b.header.key)) := by
      rw [assign, assign, List.filter_filterMap, List.filterMap_filter]
      refine List.filterMap_congr fun e _ => ?_
      split_ifs with he hne hne
      · cases new with
        | none => rfl
        | some v => simp [Option.filter, Ne.symm hkey]
      · simp [he, Ne.symm hkey] at hne
      · simp [Option.filter, hne]
      · simp [Option.filter, hne]
    rw [hfilter]
    rfl

theorem Block.keeps_addHere (b : Block) : Origin.implied.Keeps key new fun _ => b.addHere := by
  intro self self' t t' _ ht hadd
  have hkey : b.header.key ≠ key := by
    rintro rfl
    obtain ⟨v, hv⟩ := ht.exists_lookup
    have hnone : b.addHere t = none := Block.addHere_eq_none (by rw [hv]; rfl)
    cases hnone.symm.trans hadd
  exact ⟨ht.of_others hkey (Block.lookup_addHere hadd).2, Block.addHere_replace hkey hadd⟩

/-- A path leads into twins alike. -/
theorem Twin.into? (h : Twin key new opened a b) (hedit : opened.Keeps key new edit)
    (ha : Entries.into? opened edit a = some a') :
    ∃ b', Entries.into? opened edit b = some b' ∧ Twin key new opened (some a') (some b') := by
  obtain ⟨self, t, back, t', henters, ht', rfl⟩ := Entries.into?_eq_some_iff.mp ha
  cases h with
  | inline => cases henters
  | table ht horigin hsame =>
    cases henters with
    | table hheader =>
      obtain ⟨htakes, hreplace⟩ := hedit hsame ht ht'
      refine ⟨_, Entries.into?_eq_some_iff.mpr ⟨_, _, _, _, .table ?_ _, hreplace, rfl⟩,
        .table htakes horigin hsame⟩
      rintro ⟨hopened, horigin'⟩
      exact hheader ⟨hopened, hsame hopened ▸ horigin'⟩
  | missing ht hnone =>
    cases henters with
    | table =>
      have hself : opened = .dotted → opened = .dotted := id
      obtain ⟨htakes, hreplace⟩ := hedit hself ht ht'
      rw [hnone] at hreplace
      exact ⟨_, Entries.into?_eq_some_iff.mpr ⟨_, _, _, _, .missing, hreplace, rfl⟩,
        .table htakes (by decide) hself⟩

/-- Where the section stands already, no line gives it a value and no header opens it. -/
theorem Twin.key_line (h : Twin key new .dotted a b) (line : KeyLine) (ha : line.act? a = some a') :
    ∃ b', line.act? b = some b' ∧ Twin key new .dotted (some a') (some b') := by
  obtain ⟨parents, k, v⟩ := line
  cases parents with
  | nil => cases h <;> cases ha
  | cons top path => exact h.into? ((KeyLine.keeps_putHere ⟨top :: path, k, v⟩).editAt? path) ha

theorem Twin.block (h : Twin key new .implied a b) (block : Block) (ha : block.act? a = some a') :
    ∃ b', block.act? b = some b' ∧ Twin key new .implied (some a') (some b') := by
  obtain ⟨⟨parents, k, isList⟩, lines⟩ := block
  cases parents with
  | cons top path => exact h.into? ((Block.keeps_addHere _).editAt? path) ha
  | nil =>
    cases h with
    | inline | missing => cases ha
    | @table origin _ _ _ horigin _ =>
      cases origin with
      | implied => exact absurd rfl horigin
      | header | dotted => cases ha

theorem Twin.implied (h : Twin key new opened a b) : Twin key new .implied a b := by
  cases h with
  | inline ht => exact .inline ht
  | table ht horigin _ => exact .table ht horigin nofun
  | missing ht hnone => exact .missing ht hnone

end Twin

/-! ### The value itself -/

/-- The lines that give the key its value: one, or none. -/
def given (parents : List String) (key : String) (new : Option Value) : List KeyLine :=
  new.toList.map fun v => ⟨parents, key, v⟩

section Given
variable {parents : List String} {key : String} {v : Value} {new : Option Value} {t t' : Entries}

/-- Where one value can be given, so can any other. -/
theorem putHere_replaced {self : Origin} (h : KeyLine.putHere ⟨parents, key, v⟩ self t = some t') :
    Entries.Takes .value [key] t' ∧ t = Entries.replace key none t' ∧
      ∀ w, KeyLine.putHere ⟨parents, key, w⟩ self t = some (Entries.replace key (some w) t') := by
  have htakes : Entries.Takes .value [key] t' :=
    .value ((KeyLine.lookup_putHere h key).trans (if_pos rfl)) rfl
  obtain ⟨horigin, hlookup, rfl⟩ := KeyLine.putHere_eq_some_iff.mp h
  have hreplace : ∀ new, Entries.replace key new (t ++ [(key, .value v)]) =
      t ++ (new.map fun w => (key, Node.value w)).toList := by
    intro new
    rw [Entries.replace, assign_append, assign_of_lookup hlookup, assign_cons, if_pos rfl,
      Option.map_map]
    exact congrArg (t ++ ·) (List.append_nil _)
  refine ⟨htakes, ?_, fun w => ?_⟩
  · rw [hreplace]
    exact (List.append_nil t).symm
  · rw [hreplace]
    exact KeyLine.putHere_eq_some_iff.mpr ⟨horigin, hlookup, rfl⟩

theorem Entries.putAll?_singleton (line : KeyLine) (t : Entries) :
    putAll? [line] t = put? line t := by
  simp [putAll?]

theorem Entries.putAll?_append (lines lines' : List KeyLine) (t : Entries) :
    putAll? (lines ++ lines') t = (putAll? lines t).bind (putAll? lines') := List.foldlM_append

theorem Entries.putAll?_replace : ∀ {lines : List KeyLine} {t t' : Entries},
    Takes .value [key] t → putAll? lines t = some t' →
      Takes .value [key] t' ∧ putAll? lines (replace key new t) = some (replace key new t')
  | [], t, t', ht, h => by
    obtain rfl := Option.some.inj h
    exact ⟨ht, rfl⟩
  | line :: lines, t, t', ht, h => by
    obtain ⟨next, hnext, h⟩ := Option.bind_eq_some_iff.mp h
    obtain ⟨htakes, hput⟩ := (line.keeps_putHere.editAt? line.parents) (fun _ => rfl) ht hnext
    obtain ⟨htakes', hrest⟩ := putAll?_replace htakes h
    exact ⟨htakes', Option.bind_eq_some_iff.mpr ⟨_, hput, hrest⟩⟩

/-- **Lines among which a key is given a value** give the same without it, apart from the key. -/
theorem Entries.putAll?_replaced (new : Option Value) {above below : List KeyLine}
    (h : putAll? (above ++ given [] key (some v) ++ below) t = some t') :
    Takes .value [key] t' ∧
      putAll? (above ++ given [] key new ++ below) t = some (replace key new t') := by
  rw [putAll?_append, putAll?_append] at h ⊢
  obtain ⟨mid, h, hbelow⟩ := Option.bind_eq_some_iff.mp h
  obtain ⟨front, hfront, hmid⟩ := Option.bind_eq_some_iff.mp h
  have hput : KeyLine.putHere ⟨[], key, v⟩ .header front = some mid :=
    (putAll?_singleton _ _).symm.trans hmid
  obtain ⟨htakes, hnone, hsome⟩ := putHere_replaced hput
  have hmid' : putAll? (given [] key new) front = some (replace key new mid) := by
    cases new with
    | none => exact congrArg some hnone
    | some w => exact (putAll?_singleton _ _).trans (hsome w)
  rw [hfront, Option.bind_some, hmid', Option.bind_some]
  exact putAll?_replace htakes hbelow

end Given

/-! ### Whole documents -/

/-- The second document is the first one with another value at a key of a section, or without it;
a section with no other key may be missing. -/
structure Replaced (name key : String) (new : Option Value) (root root' : Table) : Prop where
  others : ∀ k, k ≠ name → root'.get? k = root.get? k
  here : ∃ t : Table, root.get? name = some (.table t) ∧ (t.get? key).isSome ∧
    (root'.get? name = some (.table (assign key new t)) ∨
      root'.get? name = none ∧ assign key new t = [])

theorem Entries.Takes.isSome_get? {key : String} {t : Entries} (h : Entries.Takes .value [key] t) :
    (Table.get? (Entries.toTable t) key).isSome := by
  rw [get?_toTable, Option.isSome_map]
  exact h.isSome_lookup

section Documents
variable {name key : String} {new : Option Value} {opened : Origin} {root root' root₁ : Entries}

theorem Aside.replaced (h : Aside name (Twin key new opened) root root') :
    Replaced name key new (Entries.toTable root) (Entries.toTable root') := by
  refine ⟨fun k hk => ?_, ?_⟩
  · rw [get?_toTable, get?_toTable, h.others k hk]
  · have hhere := h.here
    rw [get?_toTable, get?_toTable]
    generalize root.lookup name = a, root'.lookup name = b at hhere
    cases hhere with
    | inline ht => exact ⟨_, congrArg some (Node.toValue.eq_1 _), ht,
        .inl (congrArg some (Node.toValue.eq_1 _))⟩
    | table ht =>
      refine ⟨_, congrArg some (Node.toValue.eq_2 _ _), ht.isSome_get?, .inl ?_⟩
      rw [← Entries.toTable_replace]
      exact congrArg some (Node.toValue.eq_2 _ _)
    | missing ht hnone =>
      refine ⟨_, congrArg some (Node.toValue.eq_2 _ _), ht.isSome_get?, .inr ⟨rfl, ?_⟩⟩
      rw [← Entries.toTable_replace, hnone]
      rfl

theorem Aside.lines {lines : List KeyLine} (h : Aside name (Twin key new .dotted) root root')
    (hrun : Entries.putAll? lines root = some root₁) :
    ∃ root₁', Entries.putAll? lines root' = some root₁' ∧
      Aside name (Twin key new .dotted) root₁ root₁' :=
  Aside.run (fun line _ _ _ h => line.acts.aside h fun htwin => htwin.key_line line) h hrun

theorem Aside.blocks {bs : List Block} (h : Aside name (Twin key new opened) root root')
    (hrun : bs.foldlM (fun root b => Entries.addTable? b.header b.lines root) root = some root₁) :
    ∃ root₁', bs.foldlM (fun root b => Entries.addTable? b.header b.lines root) root' =
      some root₁' ∧ Aside name (Twin key new .implied) root₁ root₁' :=
  Aside.run (fun b _ _ _ h => b.acts.aside h fun htwin => htwin.block b) ⟨h.here.implied, h.others⟩
    hrun

end Documents

theorem blocks_append_header (h : Header) (es' : List Expression) : ∀ es : List Expression,
    blocks (es ++ .header h :: es') =
      ((blocks es).1, (blocks es).2 ++ ⟨h, (blocks es').1⟩ :: (blocks es').2)
  | [] => rfl
  | .keyLine line :: es => by rw [List.cons_append, blocks, blocks_append_header h es' es]; rfl
  | .header h' :: es => by rw [List.cons_append, blocks, blocks_append_header h es' es]; rfl

theorem assemble?_eq_some_iff {es : List Expression} {t : Table} : assemble? es = some t ↔
    ∃ root, Entries.putAll? (blocks es).1 [] = some root ∧ ∃ root',
      (blocks es).2.foldlM (fun root b => Entries.addTable? b.header b.lines root) root =
        some root' ∧ Entries.toTable root' = t := by
  simp only [assemble?, Option.bind_eq_bind, Option.bind_eq_some_iff, Option.pure_def,
    Option.some.injEq]

section Forms
variable {name key : String} {v : Value} {above : List KeyLine} {after : List Expression}
  {t : Table} (new : Option Value)

/-- **Below the header of a section**, a value can be replaced or left out. -/
theorem exists_replaced_below {before : List Expression}
    (h : assemble? (before ++ .header ⟨[], name, false⟩ ::
      ((above ++ given [] key (some v)).map .keyLine ++ after)) = some t) :
    ∃ t', assemble? (before ++ .header ⟨[], name, false⟩ ::
        ((above ++ given [] key new).map .keyLine ++ after)) = some t' ∧
      Replaced name key new t t' := by
  simp only [assemble?_eq_some_iff, blocks_append_header, blocks_keyLines, List.foldlM_append,
    List.foldlM_cons, Option.bind_eq_bind, Option.bind_eq_some_iff] at h ⊢
  obtain ⟨root, hlines, root', ⟨front, hfront, mid, hmid, hrest⟩, rfl⟩ := h
  let block (new : Option Value) : Block :=
    ⟨⟨[], name, false⟩, above ++ given [] key new ++ (blocks after).1⟩
  have hopens : ∀ {a b : Option Node} {a' : Node}, a = b → (block (some v)).act? a = some a' →
      ∃ b', (block new).act? b = some b' ∧ Twin key new .implied (some a') (some b') := by
    rintro a _ a' rfl ha
    obtain ⟨sub, back, sub', hstarts, hsub', rfl⟩ := Block.open?_eq_some_iff.mp ha
    obtain ⟨htakes, hreplaced⟩ := Entries.putAll?_replaced new hsub'
    refine ⟨_, Block.open?_eq_some_iff.mpr ⟨_, _, _, hstarts, hreplaced, rfl⟩, ?_⟩
    cases hstarts with
    | new | implied => exact .table htakes (by decide) nofun
    | first hlist | next hlist => cases hlist
  obtain ⟨mid', hmid', haside⟩ := (block (some v)).acts.aside_of_top (block new).acts rfl rfl
    ⟨rfl, fun _ _ => rfl⟩ hopens hmid
  obtain ⟨root'', hrest', haside'⟩ := haside.blocks hrest
  exact ⟨_, ⟨root, hlines, root'', ⟨front, hfront, mid', hmid', hrest'⟩, rfl⟩, haside'.replaced⟩

/-- Lines at the top of the document can be exchanged if twins come of them. -/
theorem exists_replaced_top {lines lines' : List KeyLine}
    (hlines : ∀ {front mid}, Entries.putAll? lines front = some mid → ∃ mid',
      Entries.putAll? lines' front = some mid' ∧ Aside name (Twin key new .dotted) mid mid')
    (h : assemble? ((above ++ lines).map .keyLine ++ after) = some t) :
    ∃ t', assemble? ((above ++ lines').map .keyLine ++ after) = some t' ∧
      Replaced name key new t t' := by
  simp only [assemble?_eq_some_iff, blocks_keyLines, Entries.putAll?_append,
    Option.bind_eq_some_iff] at h ⊢
  obtain ⟨root, ⟨mid, ⟨front, hfront, hmid⟩, hbelow⟩, root', hblocks, rfl⟩ := h
  obtain ⟨mid', hmid', haside⟩ := hlines hmid
  obtain ⟨root₁, hbelow', haside'⟩ := haside.lines hbelow
  obtain ⟨root₁', hblocks', haside''⟩ := haside'.blocks hblocks
  exact ⟨_, ⟨root₁, ⟨mid', ⟨front, hfront, hmid'⟩, hbelow'⟩, root₁', hblocks', rfl⟩,
    haside''.replaced⟩

/-- One line exchanged for another of the same key. -/
theorem exists_aside_line (line line' : KeyLine) (htop : line.edit.top = name)
    (htop' : line'.edit.top = name)
    (hact : ∀ {a a'}, line.act? a = some a' →
      ∃ b', line'.act? a = some b' ∧ Twin key new .dotted (some a') (some b'))
    {front mid : Entries} (hmid : Entries.putAll? [line] front = some mid) :
    ∃ mid', Entries.putAll? [line'] front = some mid' ∧
      Aside name (Twin key new .dotted) mid mid' := by
  rw [Entries.putAll?_singleton] at hmid ⊢
  have hsame : Aside name Eq front front := ⟨rfl, fun _ _ => rfl⟩
  exact line.acts.aside_of_top line'.acts htop htop' hsame (by rintro a _ a' rfl; exact hact) hmid

/-- What a dotted key makes of what stands at the section. -/
theorem act?_dotted {a : Option Node} {a' : Node}
    (h : KeyLine.act? ⟨[name], key, v⟩ a = some a') :
    ∃ t, a' = .table .dotted t ∧ Entries.Takes .value [key] t ∧
      (a = none ∧ Entries.replace key none t = [] ∨
        a = some (.table .dotted (Entries.replace key none t))) ∧
      ∀ w, KeyLine.act? ⟨[name], key, w⟩ a =
        some (.table .dotted (Entries.replace key (some w) t)) := by
  have hact : ∀ w, KeyLine.act? ⟨[name], key, w⟩ =
      Entries.into? .dotted (KeyLine.putHere ⟨[name], key, w⟩) := fun _ => rfl
  simp only [hact] at h ⊢
  obtain ⟨self, sub, back, t, henters, hput, rfl⟩ := Entries.into?_eq_some_iff.mp h
  obtain rfl : self = .dotted := by
    simpa using (KeyLine.putHere_eq_some_iff.mp hput).1
  obtain ⟨htakes, hnone, hsome⟩ := putHere_replaced hput
  have hother : ∀ w, Entries.into? .dotted (KeyLine.putHere ⟨[name], key, w⟩) a =
      some (back (Entries.replace key (some w) t)) := fun w =>
    Entries.into?_eq_some_iff.mpr ⟨_, _, _, _, henters, hsome w, rfl⟩
  cases henters with
  | missing => exact ⟨t, rfl, htakes, .inl ⟨rfl, hnone.symm⟩, hother⟩
  | table => exact ⟨t, rfl, htakes, .inr (by rw [← hnone]), hother⟩

/-- A dotted key left out. -/
theorem aside_left_out {front mid : Entries}
    (hput : Entries.put? ⟨[name], key, v⟩ front = some mid) :
    Aside name (Twin key none .dotted) mid front := by
  have hacts := KeyLine.acts ⟨[name], key, v⟩
  cases hnew : KeyLine.act? ⟨[name], key, v⟩ (front.lookup name) with
  | none => cases (hacts.fails front hnew).symm.trans hput
  | some node =>
    obtain ⟨mid', hmid', hhere, hothers⟩ := hacts.opens _ _ hnew front rfl
    obtain rfl := Option.some.inj (hput.symm.trans hmid')
    refine ⟨?_, fun k hk => (hothers k hk).symm⟩
    change mid.lookup name = _ at hhere
    obtain ⟨sub, rfl, htakes, hfront, -⟩ := act?_dotted hnew
    rcases hfront with ⟨hfront, hnone⟩ | hfront
    · rw [hhere, hfront]
      exact .missing htakes hnone
    · rw [hhere, hfront]
      exact .table htakes (by decide) fun _ => rfl

/-- **By a dotted key**, a value can be replaced or left out. -/
theorem exists_replaced_dotted
    (h : assemble? ((above ++ given [name] key (some v)).map .keyLine ++ after) = some t) :
    ∃ t', assemble? ((above ++ given [name] key new).map .keyLine ++ after) = some t' ∧
      Replaced name key new t t' := by
  refine exists_replaced_top new (fun {front mid} hmid => ?_) h
  cases new with
  | some w =>
    refine exists_aside_line (some w) ⟨[name], key, v⟩ ⟨[name], key, w⟩ rfl rfl (fun ha => ?_) hmid
    obtain ⟨sub, rfl, htakes, -, hsome⟩ := act?_dotted ha
    exact ⟨_, hsome w, .table htakes (by decide) fun _ => rfl⟩
  | none =>
    exact ⟨front, rfl, aside_left_out ((Entries.putAll?_singleton _ _).symm.trans hmid)⟩

/-- **In an inline table**, a value can be replaced or left out. -/
theorem exists_replaced_inline {first last : List KeyLine} {sub : Entries}
    (hsub : Entries.putAll? (first ++ given [] key (some v) ++ last) [] = some sub)
    (h : assemble? ((above ++ [KeyLine.mk [] name (.table (Entries.toTable sub))]).map .keyLine ++
      after) = some t) :
    ∃ sub' t', Entries.putAll? (first ++ given [] key new ++ last) [] = some sub' ∧
      assemble? ((above ++ [KeyLine.mk [] name (.table (Entries.toTable sub'))]).map .keyLine ++
        after) = some t' ∧ Replaced name key new t t' := by
  obtain ⟨htakes, hreplaced⟩ := Entries.putAll?_replaced new hsub
  refine ⟨_, (exists_replaced_top new (exists_aside_line new
    ⟨[], name, .table (Entries.toTable sub)⟩
    ⟨[], name, .table (Entries.toTable (Entries.replace key new sub))⟩ rfl rfl
    fun {a a'} ha => ?_) h).imp fun t' ht' => ⟨hreplaced, ht'⟩⟩
  cases a with
  | some node => cases ha
  | none =>
    obtain rfl := Option.some.inj ha
    refine ⟨_, rfl, ?_⟩
    rw [Entries.toTable_replace]
    exact .inline htakes.isSome_get?

end Forms

end WmConfig.Toml
