import WmConfig.Proofs.Toml.Edits

/-! # What an expression does at its key

An expression changes what stands at the first key of its path, and looks at nothing else
(`KeyLine.acts`, `Block.acts`). A key line puts its key into a table that does not hold it
(`KeyLine.putHere_eq_some_iff`); a header starts a table from what stands at its key, in one of four
ways (`Header.Starts`, `Block.open?_eq_some_iff`).

So two tables under construction that only differ at one key can be taken along side by side: an
expression of another key does the same to both, and one of that key keeps them related as long as
it takes the relation along (`Edit.Acts.aside`, `Aside.run`). -/

namespace WmConfig.Toml

/-! ### Key lines -/

/-- Adds the key of a line to the table that holds it. -/
def KeyLine.putHere (line : KeyLine) (self : Origin) (t : Entries) : Option Entries :=
  if (self == .dotted) == line.parents.isEmpty then none
  else if (t.lookup line.key).isSome then none
  else some (t ++ [(line.key, .value line.value)])

/-- What a key line makes of what stands at the first key of its path. -/
def KeyLine.act? (line : KeyLine) : Option Node → Option Node :=
  match line.parents with
  | [] => fun node => if node.isSome then none else some (.value line.value)
  | _ :: path => Entries.into? .dotted (Entries.editAt? .dotted line.putHere path)

theorem Entries.put?_eq (line : KeyLine) :
    Entries.put? line = Entries.editAt? .dotted line.putHere line.parents .header := rfl

namespace KeyLine

variable {line : KeyLine} {self : Origin} {t t' : Entries}

theorem putHere_eq_some_iff : line.putHere self t = some t' ↔
    (self == .dotted) ≠ line.parents.isEmpty ∧ t.lookup line.key = none ∧
      t ++ [(line.key, .value line.value)] = t' := by
  rw [putHere]
  split_ifs with horigin hkey
  · exact iff_of_false nofun fun h => h.1 (beq_iff_eq.mp horigin)
  · exact iff_of_false nofun fun h => Option.isSome_iff_ne_none.mp hkey h.2.1
  · rw [beq_iff_eq] at horigin
    rw [Option.not_isSome_iff_eq_none] at hkey
    rw [Option.some.injEq, and_iff_right horigin, and_iff_right hkey]

theorem putHere_eq_none (h : (t.lookup line.key).isSome) : line.putHere self t = none := by
  rw [putHere, if_pos h, ite_self]

theorem lookup_putHere (h : line.putHere self t = some t') (k : String) :
    t'.lookup k = if k = line.key then some (.value line.value) else t.lookup k := by
  obtain ⟨-, hkey, rfl⟩ := putHere_eq_some_iff.mp h
  rw [List.lookup_append]
  split_ifs with hk
  · rw [hk, hkey, List.lookup_cons_self, Option.none_or]
  · rw [lookup_cons_of_ne hk, List.lookup_nil, Option.or_none]

end KeyLine

/-! ### Blocks -/

/-- What the header of a block, with its lines, makes of what stands at its key. -/
def Block.open? (b : Block) : Option Node → Option Node
  | none =>
    (Entries.putAll? b.lines []).map fun new =>
      if b.header.isList then .tables [new] else .table .header new
  | some (.tables items) =>
    if b.header.isList then (Entries.putAll? b.lines []).map fun new => .tables (items ++ [new])
    else none
  | some (.table .implied sub) =>
    if b.header.isList then none else (Entries.putAll? b.lines sub).map (.table .header)
  | some _ => none

/-- Adds the table of a block to the table that holds it. -/
def Block.addHere (b : Block) (t : Entries) : Option Entries :=
  if b.header.isList then Entries.alter? b.header.key b.open? t
  else (b.open? (t.lookup b.header.key)).map fun node =>
    t.filter (·.1 != b.header.key) ++ [(b.header.key, node)]

/-- What a block makes of what stands at the first key of the path of its header. -/
def Block.act? (b : Block) : Option Node → Option Node :=
  match b.header.parents with
  | [] => b.open?
  | _ :: path => Entries.into? .implied (Entries.editAt? .implied (fun _ => b.addHere) path)

theorem Entries.addTable?_eq (b : Block) : Entries.addTable? b.header b.lines =
    Entries.editAt? .implied (fun _ => b.addHere) b.header.parents .header := by
  funext root
  rw [Entries.addTable?]
  congr 1
  funext _ t
  rw [Block.addHere]
  cases hlist : b.header.isList with
  | true =>
    simp only [if_true]
    congr 1
    funext node
    rcases node with _ | (v | ⟨_ | _ | _, sub⟩ | items) <;> simp [Block.open?, hlist]
  | false =>
    simp only [Bool.false_eq_true, if_false]
    rcases t.lookup b.header.key with _ | (v | ⟨_ | _ | _, sub⟩ | items) <;>
      simp [Block.open?, hlist, Function.comp_def]

/-- The ways in which a header starts a table: what stands at its key, the keys that are in the
table before those of the block, and what stands at the key with the table. -/
inductive Header.Starts (h : Header) : Option Node → Entries → (Entries → Node) → Prop
  | first (hlist : h.isList = true) : Starts h none [] fun t => .tables [t]
  | next (hlist : h.isList = true) (items : List Entries) :
    Starts h (some (.tables items)) [] fun t => .tables (items ++ [t])
  | new (hlist : h.isList = false) : Starts h none [] (.table .header)
  | implied (hlist : h.isList = false) (sub : Entries) :
    Starts h (some (.table .implied sub)) sub (.table .header)

namespace Block

variable {b : Block} {node : Option Node} {new : Node} {t t' : Entries}

theorem open?_eq_some_iff : b.open? node = some new ↔
    ∃ t back t', b.header.Starts node t back ∧ Entries.putAll? b.lines t = some t' ∧ back t' = new := by
  constructor
  · intro h
    rcases node with _ | (v | ⟨_ | _ | _, sub⟩ | items)
    · obtain ⟨t', ht', rfl⟩ := Option.map_eq_some_iff.mp h
      cases hlist : b.header.isList with
      | true => exact ⟨_, _, t', .first hlist, ht', rfl⟩
      | false => exact ⟨_, _, t', .new hlist, ht', rfl⟩
    · cases h
    · cases h
    · rw [open?] at h
      split_ifs at h with hlist
      obtain ⟨t', ht', rfl⟩ := Option.map_eq_some_iff.mp h
      exact ⟨_, _, t', .implied (eq_false_of_ne_true hlist) sub, ht', rfl⟩
    · cases h
    · rw [open?] at h
      split_ifs at h with hlist
      obtain ⟨t', ht', rfl⟩ := Option.map_eq_some_iff.mp h
      exact ⟨_, _, t', .next hlist items, ht', rfl⟩
  · rintro ⟨t, back, t', hstarts, ht', rfl⟩
    cases hstarts with
    | first h | next h | new h | implied h => simp [open?, h, ht']

theorem open?_eq_none (h : ∀ t back, ¬b.header.Starts node t back) : b.open? node = none := by
  refine Option.eq_none_iff_forall_ne_some.mpr fun new hnew => ?_
  obtain ⟨t, back, t', hstarts, -, -⟩ := open?_eq_some_iff.mp hnew
  exact h t back hstarts

theorem addHere_eq_none (h : b.open? (t.lookup b.header.key) = none) : b.addHere t = none := by
  rw [addHere, Entries.alter?_eq_none h, h, Option.map_none, ite_self]

theorem exists_addHere (h : b.open? (t.lookup b.header.key) = some new) :
    ∃ t', b.addHere t = some t' ∧ t'.lookup b.header.key = some new ∧
      ∀ k, k ≠ b.header.key → t'.lookup k = t.lookup k := by
  rw [addHere]
  split_ifs
  · exact Entries.exists_alter? _ h
  · rw [h]
    refine ⟨_, rfl, ?_, fun k hk => ?_⟩
    · rw [lookup_moved, if_pos rfl]
    · rw [lookup_moved, if_neg hk]

theorem lookup_addHere (h : b.addHere t = some t') :
    (∃ new, b.open? (t.lookup b.header.key) = some new ∧ t'.lookup b.header.key = some new) ∧
      ∀ k, k ≠ b.header.key → t'.lookup k = t.lookup k := by
  cases hnew : b.open? (t.lookup b.header.key) with
  | none =>
    rw [addHere_eq_none hnew] at h
    cases h
  | some new =>
    obtain ⟨t'', ht'', hhere, hother⟩ := exists_addHere hnew
    obtain rfl := Option.some.inj (h.symm.trans ht'')
    exact ⟨⟨new, rfl, hhere⟩, hother⟩

end Block

/-! ### Single edits -/

/-- The first key of the path of a header. -/
def Header.top (h : Header) : String := h.parents.headD h.key

/-- What is done to a document under construction, at one key of it. -/
structure Edit where
  /-- The key. -/
  top : String
  /-- What is done. -/
  act? : Entries → Option Entries

/-- The key line is put in, at the top of the document. -/
def KeyLine.edit (line : KeyLine) : Edit := ⟨line.parents.headD line.key, Entries.put? line⟩

/-- The block is put in. -/
def Block.edit (b : Block) : Edit := ⟨b.header.top, Entries.addTable? b.header b.lines⟩

/-- **What an edit opens**: whatever the rest of the document is, the edit turns what stands at its
key into the node, and leaves all other keys alone. -/
def Edit.Opens (e : Edit) (old : Option Node) (new : Node) : Prop :=
  ∀ root : Entries, root.lookup e.top = old →
    ∃ root', e.act? root = some root' ∧ root'.lookup e.top = some new ∧
      ∀ key, key ≠ e.top → root'.lookup key = root.lookup key

/-- An edit only depends on what stands at its key, and makes something else of that alone. -/
structure Edit.Acts (e : Edit) (act : Option Node → Option Node) : Prop where
  fails : ∀ root : Entries, act (root.lookup e.top) = none → e.act? root = none
  opens : ∀ old new, act old = some new → e.Opens old new

theorem Edit.acts_of_alter? {e : Edit} {act : Option Node → Option Node}
    (h : e.act? = Entries.alter? e.top act) : e.Acts act where
  fails root hnone := by rw [h, Entries.alter?_eq_none hnone]
  opens old new hnew root hroot := by
    rw [h]
    exact Entries.exists_alter? e.top (hroot ▸ hnew)

/-- What an edit has made, by what was looked up. -/
theorem Edit.Acts.lookup {e : Edit} {act : Option Node → Option Node} (hact : e.Acts act)
    {root root' : Entries} (h : e.act? root = some root') :
    (∃ new, act (root.lookup e.top) = some new ∧ root'.lookup e.top = some new) ∧
      ∀ k, k ≠ e.top → root'.lookup k = root.lookup k := by
  cases hnew : act (root.lookup e.top) with
  | none =>
    rw [hact.fails root hnew] at h
    cases h
  | some new =>
    obtain ⟨next, hnext, hhere, hothers⟩ := hact.opens _ _ hnew root rfl
    obtain rfl := Option.some.inj (h.symm.trans hnext)
    exact ⟨⟨new, rfl, hhere⟩, hothers⟩

theorem KeyLine.acts (line : KeyLine) : line.edit.Acts line.act? := by
  obtain ⟨parents, key, v⟩ := line
  cases parents with
  | cons k path => exact Edit.acts_of_alter? (Entries.editAt?_cons _ _ k path .header)
  | nil =>
    constructor
    · intro root h
      change (if (root.lookup key).isSome then none else some (Node.value v)) = none at h
      split_ifs at h with hkey
      exact if_pos hkey
    · intro old new h root hroot
      change (if old.isSome then none else some (Node.value v)) = some new at h
      split_ifs at h with hold
      obtain rfl := Option.some.inj h
      have hput : KeyLine.putHere ⟨[], key, v⟩ .header root = some (root ++ [(key, .value v)]) :=
        KeyLine.putHere_eq_some_iff.mpr
          ⟨Bool.false_ne_true, hroot.trans (Option.not_isSome_iff_eq_none.mp hold), rfl⟩
      have hlookup := KeyLine.lookup_putHere hput
      exact ⟨_, hput, (hlookup key).trans (if_pos rfl), fun k hk => (hlookup k).trans (if_neg hk)⟩

theorem Block.acts (b : Block) : b.edit.Acts b.act? := by
  have hact : b.edit.act? =
      Entries.editAt? .implied (fun _ => b.addHere) b.header.parents .header :=
    Entries.addTable?_eq b
  obtain ⟨⟨parents, key, isList⟩, lines⟩ := b
  cases parents with
  | cons k path => exact Edit.acts_of_alter? (hact.trans (Entries.editAt?_cons _ _ k path .header))
  | nil =>
    constructor
    · intro root h
      rw [hact]
      exact addHere_eq_none h
    · intro old new h root hroot
      rw [hact]
      exact exists_addHere (hroot ▸ h)

/-! ### Two documents side by side -/

/-- The two tables have the same at each key but one; what they have at this one is so related. -/
structure Aside (name : String) (R : Option Node → Option Node → Prop) (root root' : Entries) :
    Prop where
  here : R (root.lookup name) (root'.lookup name)
  others : ∀ k, k ≠ name → root'.lookup k = root.lookup k

section Aside
variable {name : String} {R R' : Option Node → Option Node → Prop} {root root' root₁ : Entries}
  {e e' : Edit} {act act' : Option Node → Option Node}

/-- Two edits of the same key, side by side. -/
theorem Edit.Acts.aside_of_top (hact : e.Acts act) (hact' : e'.Acts act') (htop : e.top = name)
    (htop' : e'.top = name) (h : Aside name R root root')
    (hR : ∀ {a b a'}, R a b → act a = some a' → ∃ b', act' b = some b' ∧ R' (some a') (some b'))
    (hstep : e.act? root = some root₁) :
    ∃ root₁', e'.act? root' = some root₁' ∧ Aside name R' root₁ root₁' := by
  subst htop
  obtain ⟨⟨new, hnew, hlookup⟩, hothers⟩ := hact.lookup hstep
  obtain ⟨new', hnew', hrel⟩ := hR h.here hnew
  rw [← htop'] at hnew'
  obtain ⟨next', hnext', hlookup', hothers'⟩ := hact'.opens _ _ hnew' root' rfl
  rw [htop'] at hlookup' hothers'
  refine ⟨next', hnext', ?_, fun k hk => ?_⟩
  · rwa [hlookup, hlookup']
  · rw [hothers k hk, hothers' k hk, h.others k hk]

/-- **An edit takes two tables along**, if what it does at its key takes the relation along. -/
theorem Edit.Acts.aside (hact : e.Acts act) (h : Aside name R root root')
    (hR : ∀ {a b a'}, R a b → act a = some a' → ∃ b', act b = some b' ∧ R (some a') (some b'))
    (hstep : e.act? root = some root₁) :
    ∃ root₁', e.act? root' = some root₁' ∧ Aside name R root₁ root₁' := by
  by_cases htop : e.top = name
  · exact hact.aside_of_top hact htop htop h hR hstep
  obtain ⟨⟨new, hnew, hlookup⟩, hothers⟩ := hact.lookup hstep
  rw [← h.others _ htop] at hnew
  obtain ⟨next', hnext', hlookup', hothers'⟩ := hact.opens _ _ hnew root' rfl
  refine ⟨next', hnext', ?_, fun k hk => ?_⟩
  · rw [hothers _ (Ne.symm htop), hothers' _ (Ne.symm htop)]
    exact h.here
  · by_cases hk' : k = e.top
    · rw [hk', hlookup, hlookup']
    · rw [hothers k hk', hothers' k hk', h.others k hk]

/-- Several steps take two tables along if each does. -/
theorem Aside.run {α : Type} {R : Option Node → Option Node → Prop}
    {step : Entries → α → Option Entries}
    (hstep : ∀ (a : α) (root root' root₁ : Entries), Aside name R root root' →
      step root a = some root₁ → ∃ root₁', step root' a = some root₁' ∧ Aside name R root₁ root₁') :
    ∀ {as : List α} {root root' root₁ : Entries}, Aside name R root root' →
      as.foldlM step root = some root₁ →
        ∃ root₁', as.foldlM step root' = some root₁' ∧ Aside name R root₁ root₁'
  | [], root, root', root₁, h, hrun => by
    obtain rfl := Option.some.inj hrun
    exact ⟨root', rfl, h⟩
  | a :: as, root, root', root₁, h, hrun => by
    obtain ⟨next, hnext, hrun⟩ := Option.bind_eq_some_iff.mp hrun
    obtain ⟨next', hnext', h'⟩ := hstep a _ _ _ h hnext
    obtain ⟨root₁', hrun', h''⟩ := Aside.run hstep h' hrun
    exact ⟨root₁', Option.bind_eq_some_iff.mpr ⟨next', hnext', hrun'⟩, h''⟩

end Aside

end WmConfig.Toml
