import WmConfig.Toml.Document
import WmConfig.Proofs.Lookup

/-! # Edits of tables under construction

An edit at a key makes something of what stands there and leaves all other keys alone
(`exists_alter?`, `lookup_alter?`). An edit at the end of a path is one at its first key, where it
goes into the table that stands there (`editAt?_cons`); there are three ways into a node (`Enters`,
`into?_eq_some_iff`). Two edits in a row at the end of a path are one edit there (`editAt?_bind`). -/

namespace WmConfig.Toml

namespace Entries

/-! ### At a key -/

section Alter
variable {key : String} {edit : Option Node → Option Node} {t t' : Entries}

/-- An edit at a key, by what is looked up. -/
theorem exists_alter? (key : String) {edit : Option Node → Option Node} {new : Node} :
    ∀ {t : Entries}, edit (t.lookup key) = some new →
      ∃ t', alter? key edit t = some t' ∧ t'.lookup key = some new ∧
        ∀ k, k ≠ key → t'.lookup k = t.lookup k
  | [], h => by
    have h' : edit none = some new := h
    refine ⟨[(key, new)], ?_, List.lookup_cons_self, fun k hk => lookup_cons_of_ne hk _ _⟩
    rw [alter?, h']
    rfl
  | (k', node) :: rest, h => by
    by_cases hkey : k' = key
    · subst hkey
      rw [List.lookup_cons_self] at h
      refine ⟨(k', new) :: rest, ?_, List.lookup_cons_self, fun k hk => ?_⟩
      · rw [alter?, if_pos rfl, h]
        rfl
      · rw [lookup_cons_of_ne hk, lookup_cons_of_ne hk]
    · rw [lookup_cons_of_ne (Ne.symm hkey)] at h
      obtain ⟨rest', hrest, hnew, hother⟩ := exists_alter? key h
      refine ⟨(k', node) :: rest', ?_, ?_, fun k hk => ?_⟩
      · rw [alter?, if_neg hkey, hrest]
        rfl
      · rw [lookup_cons_of_ne (Ne.symm hkey), hnew]
      · rw [List.lookup_cons, List.lookup_cons, hother k hk]

theorem alter?_eq_none : ∀ {t : Entries}, edit (t.lookup key) = none → alter? key edit t = none
  | [], h => by rw [alter?, show edit none = none from h]; rfl
  | (k, node) :: t, h => by
    rw [alter?]
    split_ifs with hkey
    · rw [hkey, List.lookup_cons_self] at h
      rw [h]
      rfl
    · rw [lookup_cons_of_ne (Ne.symm hkey)] at h
      rw [alter?_eq_none h]
      rfl

theorem lookup_alter? (h : alter? key edit t = some t') :
    (∃ new, edit (t.lookup key) = some new ∧ t'.lookup key = some new) ∧
      ∀ k, k ≠ key → t'.lookup k = t.lookup k := by
  cases hnew : edit (t.lookup key) with
  | none =>
    rw [alter?_eq_none hnew] at h
    cases h
  | some new =>
    obtain ⟨t'', ht'', hkey, hother⟩ := exists_alter? key hnew
    obtain rfl := Option.some.inj (h.symm.trans ht'')
    exact ⟨⟨new, rfl, hkey⟩, hother⟩

/-- An edit at a key keeps the keys, apart from a new one at the end. -/
theorem keys_alter? {key : String} {edit : Option Node → Option Node} :
    ∀ {t t' : Entries}, alter? key edit t = some t' →
      t'.map Prod.fst = if key ∈ t.map Prod.fst then t.map Prod.fst else t.map Prod.fst ++ [key]
  | [], t', h => by
    obtain ⟨node, -, rfl⟩ := Option.map_eq_some_iff.mp h
    rfl
  | (k, node) :: rest, t', h => by
    rw [alter?] at h
    split_ifs at h with hk
    · obtain ⟨node', -, rfl⟩ := Option.map_eq_some_iff.mp h
      simp [hk]
    · obtain ⟨rest', hrest, rfl⟩ := Option.map_eq_some_iff.mp h
      have ih := keys_alter? hrest
      have hk' : key ≠ k := Ne.symm hk
      simp only [List.map_cons, List.mem_cons, hk', false_or, ih]
      split_ifs <;> rfl

/-- A node after an edit at a key was there before, or is what the edit made at the key. -/
theorem mem_alter? {key : String} {edit : Option Node → Option Node} :
    ∀ {t t' : Entries}, alter? key edit t = some t' → ∀ e ∈ t',
      e ∈ t ∨ ∃ old, edit old = some e.2 ∧ ∀ node, old = some node → (key, node) ∈ t
  | [], t', h, e, he => by
    obtain ⟨node, hnode, rfl⟩ := Option.map_eq_some_iff.mp h
    rw [List.mem_singleton.mp he]
    exact Or.inr ⟨none, hnode, by simp⟩
  | (k, node) :: rest, t', h, e, he => by
    rw [alter?] at h
    split_ifs at h with hk
    · obtain ⟨node', hnode, rfl⟩ := Option.map_eq_some_iff.mp h
      rcases List.mem_cons.mp he with rfl | he
      · exact Or.inr ⟨some node, hnode, by rintro _ ⟨⟩; simp [hk]⟩
      · exact Or.inl (List.mem_cons_of_mem _ he)
    · obtain ⟨rest', hrest, rfl⟩ := Option.map_eq_some_iff.mp h
      rcases List.mem_cons.mp he with rfl | he
      · exact Or.inl List.mem_cons_self
      · rcases mem_alter? hrest e he with hmem | ⟨old, hold, hmem⟩
        · exact Or.inl (List.mem_cons_of_mem _ hmem)
        · exact Or.inr ⟨old, hold, fun node hn => List.mem_cons_of_mem _ (hmem node hn)⟩

/-- An edit past the keys that come first. -/
theorem alter?_append {key : String} {edit : Option Node → Option Node} {t : Entries} :
    ∀ {front : Entries}, key ∉ front.map Prod.fst →
      alter? key edit (front ++ t) = (alter? key edit t).map (front ++ ·)
  | [], _ => by simp
  | (k, node) :: front, h => by
    rw [List.map_cons, List.mem_cons, not_or] at h
    rw [List.cons_append, alter?, if_neg (Ne.symm h.1), alter?_append h.2, Option.map_map]
    rfl

theorem alter?_bind (key : String) (edit edit' : Option Node → Option Node) : ∀ t : Entries,
    (alter? key edit t).bind (alter? key edit') =
      alter? key (fun node => (edit node).bind fun new => edit' (some new)) t
  | [] => by
    rw [alter?, alter?]
    cases hnew : edit none with
    | none => simp
    | some new => simp [alter?]
  | (k, node) :: t => by
    rw [alter?, alter?]
    split_ifs with hkey
    · cases hnew : edit (some node) with
      | none => simp
      | some new => simp [alter?, hkey]
    · rw [← alter?_bind key edit edit' t]
      cases hnext : alter? key edit t with
      | none => simp
      | some t' => simp [alter?, hkey]

end Alter

/-! ### The last table of a list -/

section Last
variable {edit : Entries → Option Entries} {items items' : List Entries}

theorem alterLast?_concat (edit : Entries → Option Entries) (last : Entries) :
    ∀ front : List Entries,
      alterLast? edit (front ++ [last]) = (edit last).map fun new => front ++ [new]
  | [] => rfl
  | t :: front => by
    rw [List.cons_append, alterLast?.eq_3 _ _ _ (by simp), alterLast?_concat edit last front,
      Option.map_map]
    rfl

theorem alterLast?_eq_some_iff : alterLast? edit items = some items' ↔
    ∃ front last last', items = front ++ [last] ∧ edit last = some last' ∧
      front ++ [last'] = items' := by
  constructor
  · intro h
    obtain rfl | ⟨front, last, rfl⟩ := items.eq_nil_or_concat'
    · cases h
    · rw [alterLast?_concat] at h
      obtain ⟨last', hlast, rfl⟩ := Option.map_eq_some_iff.mp h
      exact ⟨front, last, last', rfl, hlast, rfl⟩
  · rintro ⟨front, last, last', rfl, hlast, rfl⟩
    rw [alterLast?_concat, hlast]
    rfl

theorem alterLast?_bind (edit edit' : Entries → Option Entries) (items : List Entries) :
    (alterLast? edit items).bind (alterLast? edit') =
      alterLast? (fun t => (edit t).bind edit') items := by
  obtain rfl | ⟨front, last, rfl⟩ := items.eq_nil_or_concat'
  · rfl
  · rw [alterLast?_concat, alterLast?_concat]
    cases edit last with
    | none => rfl
    | some new => exact alterLast?_concat edit' new front

end Last

/-! ### At the end of a path -/

/-- Edits the table that a path leads into at its first key. -/
def into? (opened : Origin) (edit : Origin → Entries → Option Entries) : Option Node → Option Node
  | none => (edit opened []).map (Node.table opened)
  | some (.value _) => none
  | some (.table origin sub) =>
    if opened = .dotted ∧ origin = .header then none else (edit origin sub).map (Node.table origin)
  | some (.tables items) => (alterLast? (edit .header) items).map Node.tables

/-- The ways into a node: the origin of the table that a path leads to and the table itself, and
what the node becomes with another table in its place. -/
inductive Enters (opened : Origin) : Option Node → Origin → Entries → (Entries → Node) → Prop
  | missing : Enters opened none opened [] (.table opened)
  | table {origin : Origin} (h : ¬(opened = .dotted ∧ origin = .header)) (sub : Entries) :
    Enters opened (some (.table origin sub)) origin sub (.table origin)
  | last (front : List Entries) (last : Entries) :
    Enters opened (some (.tables (front ++ [last]))) .header last fun t => .tables (front ++ [t])

section Paths
variable {opened : Origin} {edit : Origin → Entries → Option Entries} {node : Option Node}
  {new : Node}

theorem into?_eq_some_iff : into? opened edit node = some new ↔
    ∃ self t back t', Enters opened node self t back ∧ edit self t = some t' ∧ back t' = new := by
  constructor
  · intro h
    match node with
    | none =>
      obtain ⟨t', ht', rfl⟩ := Option.map_eq_some_iff.mp h
      exact ⟨_, _, _, t', .missing, ht', rfl⟩
    | some (.value v) => cases h
    | some (.table origin sub) =>
      rw [into?] at h
      split_ifs at h with hheader
      obtain ⟨t', ht', rfl⟩ := Option.map_eq_some_iff.mp h
      exact ⟨_, _, _, t', .table hheader sub, ht', rfl⟩
    | some (.tables items) =>
      obtain ⟨items', hitems, rfl⟩ := Option.map_eq_some_iff.mp h
      obtain ⟨front, last, last', rfl, hlast, rfl⟩ := alterLast?_eq_some_iff.mp hitems
      exact ⟨_, _, _, last', .last front last, hlast, rfl⟩
  · rintro ⟨self, t, back, t', henters, ht', rfl⟩
    cases henters with
    | missing => rw [into?, ht']; rfl
    | table h => rw [into?, if_neg h, ht']; rfl
    | last => rw [into?, alterLast?_concat, ht']; rfl

theorem into?_eq_none (h : ∀ self t back, Enters opened node self t back → edit self t = none) :
    into? opened edit node = none := by
  refine Option.eq_none_iff_forall_ne_some.mpr fun new hnew => ?_
  obtain ⟨self, t, back, t', henters, ht', -⟩ := into?_eq_some_iff.mp hnew
  cases (h self t back henters).symm.trans ht'

theorem into?_bind (opened : Origin) (edit edit' : Origin → Entries → Option Entries)
    (node : Option Node) : ((into? opened edit node).bind fun new => into? opened edit' (some new)) =
      into? opened (fun self t => (edit self t).bind (edit' self)) node := by
  match node with
  | none =>
    have hopened : ¬(opened = .dotted ∧ opened = .header) := by
      rintro ⟨rfl, h⟩
      cases h
    simp only [into?]
    cases edit opened [] with
    | none => rfl
    | some new => simp [hopened]
  | some (.value v) => rfl
  | some (.table origin sub) =>
    simp only [into?]
    split_ifs with horigin
    · rfl
    · cases edit origin sub with
      | none => rfl
      | some new => simp [horigin]
  | some (.tables items) =>
    simp only [into?, ← alterLast?_bind]
    cases alterLast? (edit .header) items with
    | none => rfl
    | some new => rfl

theorem editAt?_cons (opened : Origin) (edit : Origin → Entries → Option Entries) (k : String)
    (path : List String) (self : Origin) : editAt? opened edit (k :: path) self =
      alter? k (into? opened (editAt? opened edit path)) := by
  funext t
  rw [editAt?]
  congr 1

theorem editAt?_append (opened : Origin) (edit : Origin → Entries → Option Entries)
    (path' : List String) : ∀ (path : List String) (self : Origin) (t : Entries),
      editAt? opened edit (path ++ path') self t =
        editAt? opened (editAt? opened edit path') path self t
  | [], self, t => rfl
  | k :: path, self, t => by
    have ih : editAt? opened edit (path ++ path') =
        editAt? opened (editAt? opened edit path') path := by
      funext self t
      exact editAt?_append opened edit path' path self t
    rw [List.cons_append, editAt?_cons, editAt?_cons, ih]

/-- Two edits at the end of a path, one after the other, are one edit there. -/
theorem editAt?_bind (opened : Origin) (edit edit' : Origin → Entries → Option Entries) :
    ∀ (path : List String) (self : Origin) (t : Entries),
      (editAt? opened edit path self t).bind (editAt? opened edit' path self) =
        editAt? opened (fun self t => (edit self t).bind (edit' self)) path self t
  | [], self, t => rfl
  | k :: path, self, t => by
    have ih : (fun self t => (editAt? opened edit path self t).bind
        (editAt? opened edit' path self)) =
          editAt? opened (fun self t => (edit self t).bind (edit' self)) path := by
      funext self t
      exact editAt?_bind opened edit edit' path self t
    rw [editAt?_cons, editAt?_cons, editAt?_cons, ← ih, alter?_bind]
    exact congrArg (alter? k · t) (funext (into?_bind _ _ _))

end Paths

end Entries

end WmConfig.Toml
