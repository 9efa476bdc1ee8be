import WmConfig.Proofs.Toml.Acts
import WmConfig.Proofs.Toml.Steps

/-! # Documents that differ in one text

What a document comes to does not depend on a text in it, apart from this text: if the expressions
of two documents are the same but for one text, so are the tables that they are put together to
(`OneOff.assemble?`), and so are these with their date forms (`Apart.withDates?`). Of a key at which
two such tables differ it follows that they are the same at every other key
(`OneOff.lookup_eq_of_ne`). -/

namespace WmConfig.Toml

/-- The second function follows the first: where the one has a result, so has the other, for related
arguments, and the results are related. -/
def Mirrors {α β : Type} (R : α → α → Prop) (S : β → β → Prop) (f f' : α → Option β) : Prop :=
  ∀ ⦃a a' b⦄, R a a' → f a = some b → ∃ b', f' a' = some b' ∧ S b b'

/-! ### Lists that differ in one element -/

/-- The lists are the same but for one element, at most, and those two are so related. -/
inductive OneOff {α : Type} (R : α → α → Prop) : List α → List α → Prop
  | same (l : List α) : OneOff R l l
  | here {a a' : α} (h : R a a') (l : List α) : OneOff R (a :: l) (a' :: l)
  | there (a : α) {l l' : List α} (h : OneOff R l l') : OneOff R (a :: l) (a :: l')

/-- The two have the same key, and what they have there is so related. -/
def Keyed {α : Type} (R : α → α → Prop) (e e' : String × α) : Prop := e.1 = e'.1 ∧ R e.2 e'.2

theorem getElem?_append_cons {α : Type} {front back : List α} {i : Nat} (hi : i ≠ front.length)
    (a a' : α) : (front ++ a :: back)[i]? = (front ++ a' :: back)[i]? := by
  rw [List.getElem?_append, List.getElem?_append]
  split_ifs
  · rfl
  · rw [List.getElem?_cons, List.getElem?_cons, if_neg (by omega), if_neg (by omega)]

namespace OneOff

section Lists
variable {α β : Type} {R : α → α → Prop} {l l' : List α}

theorem split {a a' : α} (h : R a a') (back : List α) :
    ∀ front : List α, OneOff R (front ++ a :: back) (front ++ a' :: back)
  | [] => .here h back
  | b :: front => .there b (split h back front)

theorem exists_split (h : OneOff R l l') : l = l' ∨ ∃ front a a' back,
    l = front ++ a :: back ∧ l' = front ++ a' :: back ∧ R a a' := by
  induction h with
  | same l => exact .inl rfl
  | here h l => exact .inr ⟨[], _, _, l, rfl, rfl, h⟩
  | there b _ ih =>
    rcases ih with rfl | ⟨front, a, a', back, rfl, rfl, h⟩
    · exact .inl rfl
    · exact .inr ⟨b :: front, a, a', back, rfl, rfl, h⟩

theorem map {S : β → β → Prop} {f : α → β} (hf : ∀ a a', R a a' → S (f a) (f a'))
    (h : OneOff R l l') : OneOff S (l.map f) (l'.map f) := by
  induction h with
  | same l => exact .same _
  | here h l => exact .here (hf _ _ h) _
  | there a _ ih => exact .there _ ih

theorem filterMap {S : β → β → Prop} {f : α → Option β}
    (hf : ∀ a a', R a a' → Option.Rel S (f a) (f a')) (h : OneOff R l l') :
    OneOff S (l.filterMap f) (l'.filterMap f) := by
  induction h with
  | same l => exact .same _
  | @here a a' h l =>
    have hrel := hf _ _ h
    rw [List.filterMap_cons, List.filterMap_cons]
    generalize f a = o, f a' = o' at hrel
    cases hrel with
    | none => exact .same _
    | some h => exact .here h _
  | there a _ ih =>
    rw [List.filterMap_cons, List.filterMap_cons]
    cases f a with
    | none => exact ih
    | some b => exact .there b ih

/-- **Where filtered lists differ**, the one element in which the lists differ is kept in both. -/
theorem exists_split_of_ne {S : β → β → Prop} {f : α → Option β}
    (hf : ∀ a a', R a a' → Option.Rel S (f a) (f a')) (h : OneOff R l l') {i : Nat} {b b' : β}
    (hb : (l.filterMap f)[i]? = some b) (hb' : (l'.filterMap f)[i]? = some b') (hne : b ≠ b') :
    ∃ front a a' back, l = front ++ a :: back ∧ l' = front ++ a' :: back ∧ R a a' ∧
      f a = some b ∧ f a' = some b' ∧ (front.filterMap f).length = i := by
  rcases h.exists_split with rfl | ⟨front, a, a', back, rfl, rfl, hrel⟩
  · exact absurd (Option.some.inj (hb.symm.trans hb')) hne
  rw [List.filterMap_append] at hb hb'
  have hkept := hf _ _ hrel
  generalize ho : f a = o, ho' : f a' = o' at hkept
  cases hkept with
  | none =>
    rw [List.filterMap_cons_none ho] at hb
    rw [List.filterMap_cons_none ho'] at hb'
    exact absurd (Option.some.inj (hb.symm.trans hb')) hne
  | @some c c' =>
    rw [List.filterMap_cons_some ho] at hb
    rw [List.filterMap_cons_some ho'] at hb'
    have hlength : (front.filterMap f).length = i := by
      by_contra hlength
      rw [getElem?_append_cons (Ne.symm hlength) c c', hb'] at hb
      exact hne (Option.some.inj hb).symm
    subst hlength
    rw [List.getElem?_append_right (Nat.le_refl _), Nat.sub_self, List.getElem?_cons_zero] at hb hb'
    exact ⟨front, a, a', back, rfl, rfl, hrel, ho.trans hb, ho'.trans hb', rfl⟩

theorem getElem? (hrefl : ∀ a, R a a) (h : OneOff R l l') {i : Nat} {a : α} (ha : l[i]? = some a) :
    ∃ a', l'[i]? = some a' ∧ R a a' := by
  induction h generalizing i with
  | same l => exact ⟨a, ha, hrefl a⟩
  | here h l =>
    cases i with
    | zero =>
      obtain rfl := Option.some.inj ha
      exact ⟨_, rfl, h⟩
    | succ i => exact ⟨a, ha, hrefl a⟩
  | there b _ ih =>
    cases i with
    | zero => exact ⟨a, ha, hrefl a⟩
    | succ i => exact ih ha

theorem append_right (h : OneOff R l l') (back : List α) : OneOff R (l ++ back) (l' ++ back) := by
  induction h with
  | same l => exact .same _
  | here h l => exact .here h _
  | there a _ ih => exact .there a ih

theorem append_left (h : OneOff R l l') : ∀ front : List α, OneOff R (front ++ l) (front ++ l')
  | [] => h
  | a :: front => .there a (append_left h front)

/-- **Steps along two lists** that differ in one element: what each step preserves, and what comes
of the one step that differs, holds of the whole run. -/
theorem foldlM {σ : Type} {S : σ → σ → Prop} {f : σ → α → Option σ} (hrefl : ∀ x, S x x)
    (hstep : ∀ a, Mirrors S S (f · a) (f · a))
    (hdiffer : ∀ a a', R a a' → Mirrors Eq S (f · a) (f · a')) (h : OneOff R l l') :
    Mirrors Eq S (fun x => l.foldlM f x) (fun x => l'.foldlM f x) := by
  have hrun : ∀ l : List α, Mirrors S S (fun x => l.foldlM f x) (fun x => l.foldlM f x) := by
    intro l
    induction l with
    | nil =>
      intro x x' y hx hy
      obtain rfl := Option.some.inj hy
      exact ⟨x', rfl, hx⟩
    | cons a l ih =>
      intro x x' y hx hy
      obtain ⟨next, hnext, hy⟩ := Option.bind_eq_some_iff.mp hy
      obtain ⟨next', hnext', hrel⟩ := hstep a hx hnext
      obtain ⟨y', hy', hrel'⟩ := ih hrel hy
      exact ⟨y', Option.bind_eq_some_iff.mpr ⟨next', hnext', hy'⟩, hrel'⟩
  induction h with
  | same l =>
    rintro x _ y rfl hy
    exact ⟨y, hy, hrefl y⟩
  | here h l =>
    intro x x' y hx hy
    obtain ⟨next, hnext, hy⟩ := Option.bind_eq_some_iff.mp hy
    obtain ⟨next', hnext', hrel⟩ := hdiffer _ _ h hx hnext
    obtain ⟨y', hy', hrel'⟩ := hrun l hrel hy
    exact ⟨y', Option.bind_eq_some_iff.mpr ⟨next', hnext', hy'⟩, hrel'⟩
  | there a _ ih =>
    rintro x _ y rfl hy
    obtain ⟨next, hnext, hy⟩ := Option.bind_eq_some_iff.mp hy
    obtain ⟨y', hy', hrel⟩ := ih rfl hy
    exact ⟨y', Option.bind_eq_some_iff.mpr ⟨next, hnext, hy'⟩, hrel⟩

end Lists

section Keys
variable {α : Type} {R : α → α → Prop} {l l' : List (String × α)}

theorem entry {a a' : α} (h : R a a') (key : String) (front back : List (String × α)) :
    OneOff (Keyed R) (front ++ (key, a) :: back) (front ++ (key, a') :: back) :=
  @split _ _ (key, a) (key, a') ⟨rfl, h⟩ back front

theorem keys (h : OneOff (Keyed R) l l') : l'.map Prod.fst = l.map Prod.fst := by
  induction h with
  | same l => rfl
  | here h l => rw [List.map_cons, List.map_cons, h.1]
  | there a _ ih => rw [List.map_cons, List.map_cons, ih]

/-- **At a key** the lists differ only if they differ nowhere else. -/
theorem at_key (h : OneOff (Keyed R) l l') (key : String) :
    (l'.lookup key = l.lookup key ∧
        OneOff (Keyed R) (l.filter (·.1 != key)) (l'.filter (·.1 != key))) ∨
      (l'.filter (·.1 != key) = l.filter (·.1 != key) ∧
        ∃ a a', l.lookup key = some a ∧ l'.lookup key = some a' ∧ R a a') := by
  induction h with
  | same l => exact .inl ⟨rfl, .same _⟩
  | @here e e' h l =>
    obtain ⟨k, a⟩ := e
    obtain ⟨k', a'⟩ := e'
    obtain ⟨rfl, h⟩ : k = k' ∧ R a a' := h
    by_cases hkey : k = key
    · subst hkey
      exact .inr ⟨by simp, a, a', List.lookup_cons_self, List.lookup_cons_self, h⟩
    · refine .inl ⟨?_, ?_⟩
      · rw [lookup_cons_of_ne (Ne.symm hkey), lookup_cons_of_ne (Ne.symm hkey)]
      · rw [List.filter_cons_of_pos (by simpa using hkey),
          List.filter_cons_of_pos (by simpa using hkey)]
        exact .here ⟨rfl, h⟩ _
  | there e _ ih =>
    obtain ⟨k, a⟩ := e
    by_cases hkey : k = key
    · subst hkey
      refine .inl ⟨by rw [List.lookup_cons_self, List.lookup_cons_self], ?_⟩
      rw [List.filter_cons_of_neg (by simp), List.filter_cons_of_neg (by simp)]
      rcases ih with ⟨-, h⟩ | ⟨h, -⟩
      · exact h
      · exact h ▸ .same _
    · rw [lookup_cons_of_ne (Ne.symm hkey), lookup_cons_of_ne (Ne.symm hkey),
        List.filter_cons_of_pos (by simpa using hkey), List.filter_cons_of_pos (by simpa using hkey)]
      rcases ih with ⟨hlookup, h⟩ | ⟨h, hrel⟩
      · exact .inl ⟨hlookup, .there _ h⟩
      · exact .inr ⟨congrArg _ h, hrel⟩

/-- **Where the lists differ**, what they have there is so related, and they are the same at every
other key. -/
theorem lookup_eq_of_ne {key : String} (h : OneOff (Keyed R) l l')
    (hne : l.lookup key ≠ l'.lookup key) :
    (∃ a a', l.lookup key = some a ∧ l'.lookup key = some a' ∧ R a a') ∧
      ∀ k, k ≠ key → l'.lookup k = l.lookup k := by
  rcases h.at_key key with ⟨hlookup, -⟩ | ⟨hfilter, hrel⟩
  · exact absurd hlookup.symm hne
  · refine ⟨hrel, fun k hk => ?_⟩
    rw [← lookup_filter_ne hk, hfilter, lookup_filter_ne hk]

end Keys

end OneOff

/-! ### Values and tables -/

/-- The values are the same but for one text, at most, which is `s` in the one and `s'` in the
other. -/
inductive Value.Apart (s s' : String) : Value → Value → Prop
  | same (v : Value) : Apart s s' v v
  | text : Apart s s' (.string s) (.string s')
  | item (front : List Value) {v v' : Value} (h : Apart s s' v v') (back : List Value) :
    Apart s s' (.array (front ++ v :: back)) (.array (front ++ v' :: back))
  | entry (front : Table) (key : String) {v v' : Value} (h : Apart s s' v v') (back : Table) :
    Apart s s' (.table (front ++ (key, v) :: back)) (.table (front ++ (key, v') :: back))

/-- The nodes are the same but for one text, at most. -/
inductive Node.Apart (s s' : String) : Node → Node → Prop
  | same (n : Node) : Apart s s' n n
  | value {v v' : Value} (h : v.Apart s s' v') : Apart s s' (.value v) (.value v')
  | entry (origin : Origin) (front : Entries) (key : String) {n n' : Node} (h : Apart s s' n n')
      (back : Entries) :
    Apart s s' (.table origin (front ++ (key, n) :: back))
      (.table origin (front ++ (key, n') :: back))
  | item (front : List Entries) {t t' : Entries}
      (h : Apart s s' (.table .header t) (.table .header t')) (back : List Entries) :
    Apart s s' (.tables (front ++ t :: back)) (.tables (front ++ t' :: back))

/-- The tables are the same but for one text, at most. -/
abbrev Table.Apart (s s' : String) : Table → Table → Prop := OneOff (Keyed (Value.Apart s s'))

/-- The tables under construction are the same but for one text, at most. -/
abbrev Entries.Apart (s s' : String) : Entries → Entries → Prop := OneOff (Keyed (Node.Apart s s'))

/-- The lines are the same but for one text in their values, at most. -/
structure KeyLine.Apart (s s' : String) (line line' : KeyLine) : Prop where
  parents : line'.parents = line.parents
  key : line'.key = line.key
  value : line.value.Apart s s' line'.value

section Apart
variable {s s' : String}

theorem Value.Apart.eq {v v' : Value} (h : v.Apart s s v') : v = v' := by
  induction h with
  | same v => rfl
  | text => rfl
  | item front h back ih => rw [ih]
  | entry front key h back ih => rw [ih]

theorem OneOff.table {t t' : Table} (h : Table.Apart s s' t t') :
    (Value.table t).Apart s s' (.table t') := by
  rcases h.exists_split with rfl | ⟨front, ⟨key, v⟩, ⟨_, v'⟩, back, rfl, rfl, rfl, hrel⟩
  · exact .same _
  · exact .entry front key hrel back

theorem OneOff.array {l l' : List Value} (h : OneOff (Value.Apart s s') l l') :
    (Value.array l).Apart s s' (.array l') := by
  rcases h.exists_split with rfl | ⟨front, v, v', back, rfl, rfl, hrel⟩
  · exact .same _
  · exact .item front hrel back

theorem Value.Apart.of_table {t : Table} {v' : Value} (h : (Value.table t).Apart s s' v') :
    ∃ t', v' = .table t' ∧ t.Apart s s' t' := by
  cases h with
  | same => exact ⟨t, rfl, .same t⟩
  | entry front key h back => exact ⟨_, rfl, .entry h key front back⟩

theorem OneOff.node {t t' : Entries} (h : Entries.Apart s s' t t') (origin : Origin) :
    (Node.table origin t).Apart s s' (.table origin t') := by
  rcases h.exists_split with rfl | ⟨front, ⟨key, n⟩, ⟨_, n'⟩, back, rfl, rfl, rfl, hrel⟩
  · exact .same _
  · exact .entry origin front key hrel back

theorem OneOff.nodes {items items' : List Entries} (h : OneOff (Entries.Apart s s') items items') :
    (Node.tables items).Apart s s' (.tables items') := by
  rcases h.exists_split with rfl | ⟨front, t, t', back, rfl, rfl, hrel⟩
  · exact .same _
  · exact .item front (hrel.node .header) back

theorem Node.Apart.of_table {origin : Origin} {t : Entries} {n' : Node}
    (h : (Node.table origin t).Apart s s' n') : ∃ t', n' = .table origin t' ∧ t.Apart s s' t' := by
  cases h with
  | same => exact ⟨t, rfl, .same t⟩
  | entry _ front key h back => exact ⟨_, rfl, .entry h key front back⟩

theorem Node.Apart.of_tables {items : List Entries} {n' : Node}
    (h : (Node.tables items).Apart s s' n') :
    ∃ items', n' = .tables items' ∧ OneOff (Entries.Apart s s') items items' := by
  cases h with
  | same => exact ⟨items, rfl, .same items⟩
  | item front h back =>
    obtain ⟨_, ⟨⟩, ht⟩ := h.of_table
    exact ⟨_, rfl, .split ht back front⟩

theorem Node.Apart.toValue {n n' : Node} (h : n.Apart s s' n') : n.toValue.Apart s s' n'.toValue := by
  induction h with
  | same n => exact .same _
  | value h => exact h
  | entry origin front key h back ih =>
    simp only [Node.toValue, Entries.toTable_eq_map, List.map_append, List.map_cons]
    exact .entry _ key ih _
  | item front h back ih =>
    simp only [Node.toValue, Entries.toItems_eq_map, List.map_append, List.map_cons]
    exact .item _ ih _

theorem OneOff.toTable {t t' : Entries} (h : Entries.Apart s s' t t') :
    (Entries.toTable t).Apart s s' (Entries.toTable t') := by
  rw [Entries.toTable_eq_map, Entries.toTable_eq_map]
  exact h.map fun _ _ he => ⟨he.1, he.2.toValue⟩

/-! ### Edits -/

namespace Mirrors

section Same
variable {edit : Option Node → Option Node} {change : Origin → Entries → Option Entries}

/-- An edit at a key takes tables along that are the same but for a text. -/
theorem alter? (h : Mirrors (Node.Apart s s') (Node.Apart s s') (edit ∘ some) (edit ∘ some))
    (key : String) : Mirrors (Entries.Apart s s') (Entries.Apart s s') (Entries.alter? key edit)
      (Entries.alter? key edit) := by
  intro t t' u ht
  induction ht generalizing u with
  | same t => exact fun hu => ⟨u, hu, .same u⟩
  | @here e e' he t =>
    obtain ⟨k, n⟩ := e
    obtain ⟨k', n'⟩ := e'
    obtain ⟨rfl, he⟩ : k = k' ∧ n.Apart s s' n' := he
    rw [Entries.alter?, Entries.alter?]
    split_ifs
    · intro hu
      obtain ⟨m, hm, rfl⟩ := Option.map_eq_some_iff.mp hu
      obtain ⟨m', hm', hrel⟩ := h he hm
      exact ⟨_, Option.map_eq_some_iff.mpr ⟨m', hm', rfl⟩, .here ⟨rfl, hrel⟩ _⟩
    · intro hu
      obtain ⟨rest, hrest, rfl⟩ := Option.map_eq_some_iff.mp hu
      exact ⟨_, Option.map_eq_some_iff.mpr ⟨rest, hrest, rfl⟩, .here ⟨rfl, he⟩ _⟩
  | there e ht ih =>
    obtain ⟨k, n⟩ := e
    rw [Entries.alter?, Entries.alter?]
    split_ifs
    · intro hu
      obtain ⟨m, hm, rfl⟩ := Option.map_eq_some_iff.mp hu
      exact ⟨_, Option.map_eq_some_iff.mpr ⟨m, hm, rfl⟩, .there _ ht⟩
    · intro hu
      obtain ⟨rest, hrest, rfl⟩ := Option.map_eq_some_iff.mp hu
      obtain ⟨rest', hrest', hrel⟩ := ih hrest
      exact ⟨_, Option.map_eq_some_iff.mpr ⟨rest', hrest', rfl⟩, .there _ hrel⟩

/-- An edit of the last table of a list. -/
theorem alterLast? {change : Entries → Option Entries}
    (h : Mirrors (Entries.Apart s s') (Entries.Apart s s') change change) :
    Mirrors (OneOff (Entries.Apart s s')) (OneOff (Entries.Apart s s'))
      (Entries.alterLast? change) (Entries.alterLast? change) := by
  intro items items' u hitems hu
  rcases hitems.exists_split with rfl | ⟨front, t, t', back, rfl, rfl, ht⟩
  · exact ⟨u, hu, .same u⟩
  -- The text stands in the last table, which is edited, or in one before it.
  obtain rfl | ⟨back, last, rfl⟩ := back.eq_nil_or_concat'
  · rw [Entries.alterLast?_concat] at hu ⊢
    obtain ⟨new, hnew, rfl⟩ := Option.map_eq_some_iff.mp hu
    obtain ⟨new', hnew', hrel⟩ := h ht hnew
    exact ⟨_, Option.map_eq_some_iff.mpr ⟨new', hnew', rfl⟩, .split hrel [] front⟩
  · have hassoc : ∀ t : Entries, front ++ t :: (back ++ [last]) = front ++ t :: back ++ [last] := by
      simp
    rw [hassoc, Entries.alterLast?_concat] at hu ⊢
    obtain ⟨new, hnew, rfl⟩ := Option.map_eq_some_iff.mp hu
    exact ⟨_, Option.map_eq_some_iff.mpr ⟨new, hnew, rfl⟩, .append_right (.split ht back front) _⟩

variable (h : ∀ self, Mirrors (Entries.Apart s s') (Entries.Apart s s') (change self) (change self))
include h

theorem into? (opened : Origin) : Mirrors (Node.Apart s s') (Node.Apart s s')
    (Entries.into? opened change ∘ some) (Entries.into? opened change ∘ some) := by
  intro n n' m hn hm
  obtain ⟨self, t, back, u, henters, hu, rfl⟩ := Entries.into?_eq_some_iff.mp hm
  cases henters with
  | table hopened =>
    obtain ⟨t', rfl, ht⟩ := hn.of_table
    obtain ⟨u', hu', hrel⟩ := h self ht hu
    exact ⟨_, Entries.into?_eq_some_iff.mpr ⟨_, _, _, _, .table hopened t', hu', rfl⟩,
      hrel.node self⟩
  | last front =>
    obtain ⟨items, rfl, hitems⟩ := hn.of_tables
    obtain ⟨items', hitems', hrel⟩ := alterLast? (h .header) hitems
      (Entries.alterLast?_eq_some_iff.mpr ⟨front, t, u, rfl, hu, rfl⟩)
    exact ⟨_, Option.map_eq_some_iff.mpr ⟨items', hitems', rfl⟩, hrel.nodes⟩

theorem editAt? (opened : Origin) : ∀ (path : List String) (self : Origin),
    Mirrors (Entries.Apart s s') (Entries.Apart s s') (Entries.editAt? opened change path self)
      (Entries.editAt? opened change path self)
  | [], self => h self
  | k :: path, self => by
    rw [Entries.editAt?_cons]
    exact alter? (into? (fun self => editAt? opened path self) opened) k

end Same

section Different
variable {edit edit' : Option Node → Option Node}
  {change change' : Origin → Entries → Option Entries}

/-- Edits with results that are the same but for a text, at a key. -/
theorem alter?_eq (h : Mirrors Eq (Node.Apart s s') edit edit') (key : String) :
    Mirrors Eq (Entries.Apart s s') (Entries.alter? key edit) (Entries.alter? key edit') := by
  rintro t _ u rfl hu
  induction t generalizing u with
  | nil =>
    obtain ⟨m, hm, rfl⟩ := Option.map_eq_some_iff.mp hu
    obtain ⟨m', hm', hrel⟩ := h rfl hm
    exact ⟨_, Option.map_eq_some_iff.mpr ⟨m', hm', rfl⟩, .here ⟨rfl, hrel⟩ _⟩
  | cons e t ih =>
    obtain ⟨k, n⟩ := e
    rw [Entries.alter?] at hu ⊢
    split_ifs at hu ⊢
    · obtain ⟨m, hm, rfl⟩ := Option.map_eq_some_iff.mp hu
      obtain ⟨m', hm', hrel⟩ := h rfl hm
      exact ⟨_, Option.map_eq_some_iff.mpr ⟨m', hm', rfl⟩, .here ⟨rfl, hrel⟩ _⟩
    · obtain ⟨rest, hrest, rfl⟩ := Option.map_eq_some_iff.mp hu
      obtain ⟨rest', hrest', hrel⟩ := ih hrest
      exact ⟨_, Option.map_eq_some_iff.mpr ⟨rest', hrest', rfl⟩, .there _ hrel⟩

variable (h : ∀ self, Mirrors Eq (Entries.Apart s s') (change self) (change' self))
include h

theorem into?_eq (opened : Origin) :
    Mirrors Eq (Node.Apart s s') (Entries.into? opened change) (Entries.into? opened change') := by
  rintro n _ m rfl hm
  obtain ⟨self, t, back, u, henters, hu, rfl⟩ := Entries.into?_eq_some_iff.mp hm
  obtain ⟨u', hu', hrel⟩ := h self rfl hu
  refine ⟨_, Entries.into?_eq_some_iff.mpr ⟨_, _, _, _, henters, hu', rfl⟩, ?_⟩
  cases henters with
  | missing | table => exact hrel.node _
  | last front => exact (OneOff.split hrel [] front).nodes

theorem editAt?_eq (opened : Origin) : ∀ (path : List String) (self : Origin),
    Mirrors Eq (Entries.Apart s s') (Entries.editAt? opened change path self)
      (Entries.editAt? opened change' path self)
  | [], self => h self
  | k :: path, self => by
    rw [Entries.editAt?_cons, Entries.editAt?_cons]
    exact alter?_eq (into?_eq (fun self => editAt?_eq opened path self) opened) k

end Different

/-! ### Lines and headers -/

theorem put? (line : KeyLine) : Mirrors (Entries.Apart s s') (Entries.Apart s s')
    (Entries.put? line) (Entries.put? line) := by
  refine @editAt? _ _ line.putHere (fun self => ?_) .dotted line.parents .header
  intro t t' u ht hu
  obtain ⟨horigin, hlookup, rfl⟩ := KeyLine.putHere_eq_some_iff.mp hu
  refine ⟨_, KeyLine.putHere_eq_some_iff.mpr ⟨horigin, ?_, rfl⟩, ht.append_right _⟩
  rw [lookup_eq_none_iff] at hlookup ⊢
  rwa [ht.keys]

theorem put?_eq {line line' : KeyLine} (h : line.Apart s s' line') :
    Mirrors Eq (Entries.Apart s s') (Entries.put? line) (Entries.put? line') := by
  rw [Entries.put?_eq, Entries.put?_eq, h.parents]
  refine editAt?_eq (fun self => ?_) .dotted line.parents .header
  rintro t _ u rfl hu
  obtain ⟨horigin, hlookup, rfl⟩ := KeyLine.putHere_eq_some_iff.mp hu
  rw [← h.parents] at horigin
  rw [← h.key] at hlookup
  refine ⟨_, KeyLine.putHere_eq_some_iff.mpr ⟨horigin, hlookup, rfl⟩, ?_⟩
  rw [h.key]
  exact .entry (.value h.value) line.key t []

/-- A header starts a table with what was there, and without lines adds nothing to it. -/
theorem open? (header : Header) : Mirrors (Node.Apart s s') (Node.Apart s s')
    (Block.open? ⟨header, []⟩ ∘ some) (Block.open? ⟨header, []⟩ ∘ some) := by
  intro n n' m hn hm
  obtain ⟨t, back, u, hstarts, hu, rfl⟩ := Block.open?_eq_some_iff.mp hm
  obtain rfl := Option.some.inj hu
  cases hstarts with
  | implied hlist =>
    obtain ⟨t', rfl, ht⟩ := hn.of_table
    exact ⟨_, Block.open?_eq_some_iff.mpr ⟨_, _, t', .implied hlist t', rfl, rfl⟩, ht.node .header⟩
  | next hlist items =>
    obtain ⟨items', rfl, hitems⟩ := hn.of_tables
    exact ⟨_, Block.open?_eq_some_iff.mpr ⟨_, _, [], .next hlist items', rfl, rfl⟩,
      (hitems.append_right _).nodes⟩

theorem addTable? (header : Header) : Mirrors (Entries.Apart s s') (Entries.Apart s s')
    (Entries.addTable? header []) (Entries.addTable? header []) := by
  let b : Block := ⟨header, []⟩
  rw [Entries.addTable?_eq b]
  refine editAt? (fun _ => ?_) .implied _ .header
  rw [show b.addHere = _ from funext fun t => Block.addHere.eq_1 b t]
  split_ifs
  · exact alter? (open? header) _
  · intro t t' u ht hu
    obtain ⟨m, hm, rfl⟩ := Option.map_eq_some_iff.mp hu
    rcases ht.at_key b.header.key with ⟨hlookup, hothers⟩ | ⟨hothers, n, n', hn, hn', hrel⟩
    · exact ⟨_, Option.map_eq_some_iff.mpr ⟨m, hlookup ▸ hm, rfl⟩, hothers.append_right _⟩
    · rw [hn] at hm
      obtain ⟨m', hm', hrel'⟩ := open? header hrel hm
      refine ⟨_, Option.map_eq_some_iff.mpr ⟨m', hn' ▸ hm', rfl⟩, ?_⟩
      rw [hothers]
      exact .entry hrel' b.header.key _ []

end Mirrors

theorem OneOff.putAll? {lines lines' : List KeyLine} (h : OneOff (KeyLine.Apart s s') lines lines') :
    Mirrors Eq (Entries.Apart s s') (Entries.putAll? lines) (Entries.putAll? lines') :=
  h.foldlM (f := fun t line => Entries.put? line t) .same (fun line => .put? line)
    fun _ _ hline => .put?_eq hline

/-! ### Whole documents -/

/-- The expressions are the same but for one text, at most. -/
inductive Expression.Apart (s s' : String) : Expression → Expression → Prop
  | keyLine {line line' : KeyLine} (h : line.Apart s s' line') :
    Apart s s' (.keyLine line) (.keyLine line')

/-- **Expressions that are the same but for a text** are put together to tables that are. -/
theorem OneOff.assemble? {es es' : List Expression} {t : Table}
    (h : OneOff (Expression.Apart s s') es es') (ht : Toml.assemble? es = some t) :
    ∃ t', Toml.assemble? es' = some t' ∧ t.Apart s s' t' := by
  have hrun := h.foldlM (f := Progress.step?)
    (S := fun p p' => p.path = p'.path ∧ Entries.Apart s s' p.root p'.root)
    (fun _ => ⟨rfl, .same _⟩) ?_ ?_
  · rw [assemble?_eq_run] at ht ⊢
    obtain ⟨p, hp, rfl⟩ := Option.map_eq_some_iff.mp ht
    obtain ⟨p', hp', -, hrel⟩ := hrun rfl hp
    exact ⟨_, Option.map_eq_some_iff.mpr ⟨p', hp', rfl⟩, hrel.toTable⟩
  · rintro (line | header) ⟨path, root⟩ ⟨_, root'⟩ q ⟨rfl, hroot⟩ hq
    · obtain ⟨u, hu, rfl⟩ := Option.map_eq_some_iff.mp hq
      obtain ⟨u', hu', hrel⟩ :=
        Mirrors.editAt? (fun _ => Mirrors.put? line) .implied path .header hroot hu
      exact ⟨_, Option.map_eq_some_iff.mpr ⟨u', hu', rfl⟩, rfl, hrel⟩
    · obtain ⟨u, hu, rfl⟩ := Option.map_eq_some_iff.mp hq
      obtain ⟨u', hu', hrel⟩ := Mirrors.addTable? header hroot hu
      exact ⟨_, Option.map_eq_some_iff.mpr ⟨u', hu', rfl⟩, rfl, hrel⟩
  · rintro _ _ ⟨hline⟩ ⟨path, root⟩ _ q rfl hq
    obtain ⟨u, hu, rfl⟩ := Option.map_eq_some_iff.mp hq
    obtain ⟨u', hu', hrel⟩ :=
      Mirrors.editAt?_eq (fun _ => Mirrors.put?_eq hline) .implied path .header rfl hu
    exact ⟨_, Option.map_eq_some_iff.mpr ⟨u', hu', rfl⟩, rfl, hrel⟩

/-! ### Date forms -/

/-- The second value follows the first one when date forms are read. -/
def FollowsDates (s s' : String) (v v' : Value) : Prop :=
  ∀ w, v.withDates? = some w → ∃ w', v'.withDates? = some w' ∧ w.Apart s s' w'

theorem OneOff.itemsWithDates? {items items' : List Value}
    (h : OneOff (FollowsDates s s') items items') : ∀ {ws : List Value},
      Value.itemsWithDates? items = some ws →
        ∃ ws', Value.itemsWithDates? items' = some ws' ∧ OneOff (Value.Apart s s') ws ws' := by
  induction h with
  | same => exact fun hws => ⟨_, hws, .same _⟩
  | here h rest =>
    intro ws hws
    obtain ⟨w, hw, hws⟩ := Option.bind_eq_some_iff.mp hws
    obtain ⟨rest', hrest, hws⟩ := Option.bind_eq_some_iff.mp hws
    obtain rfl := Option.some.inj hws
    obtain ⟨w', hw', hrel⟩ := h w hw
    exact ⟨w' :: rest', by rw [Value.itemsWithDates?, hw', hrest]; rfl, .here hrel rest'⟩
  | there v _ ih =>
    intro ws hws
    obtain ⟨w, hw, hws⟩ := Option.bind_eq_some_iff.mp hws
    obtain ⟨rest, hrest, hws⟩ := Option.bind_eq_some_iff.mp hws
    obtain rfl := Option.some.inj hws
    obtain ⟨rest', hrest', hrel⟩ := ih hrest
    exact ⟨w :: rest', by rw [Value.itemsWithDates?, hw, hrest']; rfl, .there w hrel⟩

theorem OneOff.entriesWithDates? {t t' : Table} (h : OneOff (Keyed (FollowsDates s s')) t t') :
    ∀ {u : Table}, Value.entriesWithDates? t = some u →
      ∃ u', Value.entriesWithDates? t' = some u' ∧ u.Apart s s' u' := by
  induction h with
  | same => exact fun hu => ⟨_, hu, .same _⟩
  | @here e e' h rest =>
    obtain ⟨key, v⟩ := e
    obtain ⟨key', v'⟩ := e'
    obtain ⟨rfl, h⟩ : key = key' ∧ FollowsDates s s' v v' := h
    intro u hu
    obtain ⟨w, hw, hu⟩ := Option.bind_eq_some_iff.mp hu
    obtain ⟨rest', hrest, hu⟩ := Option.bind_eq_some_iff.mp hu
    obtain rfl := Option.some.inj hu
    obtain ⟨w', hw', hrel⟩ := h w hw
    exact ⟨(key, w') :: rest', by rw [Value.entriesWithDates?, hw', hrest]; rfl,
      .here ⟨rfl, hrel⟩ rest'⟩
  | there e _ ih =>
    obtain ⟨key, v⟩ := e
    intro u hu
    obtain ⟨w, hw, hu⟩ := Option.bind_eq_some_iff.mp hu
    obtain ⟨rest, hrest, hu⟩ := Option.bind_eq_some_iff.mp hu
    obtain rfl := Option.some.inj hu
    obtain ⟨rest', hrest', hrel⟩ := ih hrest
    exact ⟨(key, w) :: rest', by rw [Value.entriesWithDates?, hw, hrest']; rfl, .there _ hrel⟩

theorem Value.withDates?_cons (key : String) (v : Value) (rest : Table) :
    (Value.table ((key, v) :: rest)).withDates? =
      if key = reservedDateKey then (reservedDate? v).map .datetime
      else (Value.entriesWithDates? ((key, v) :: rest)).map .table := by
  rw [Value.withDates?, Value.entriesWithDates?]
  split_ifs
  · rfl
  · cases v.withDates? with
    | none => rfl
    | some w => cases Value.entriesWithDates? rest <;> rfl

theorem Value.Apart.reservedDate? {v v' : Value} {d : Datetime}
    (hs : Toml.reservedDate? (.string s) = none) (h : v.Apart s s' v')
    (hd : Toml.reservedDate? v = some d) : Toml.reservedDate? v' = some d := by
  cases h with
  | same => exact hd
  | text => cases hs.symm.trans hd
  | item => cases hd
  | entry => cases hd

/-- **Date forms** do not come in between, unless the text itself stands for one. -/
theorem Value.Apart.withDates? (hs : Toml.reservedDate? (.string s) = none) {v v' : Value}
    (h : v.Apart s s' v') : FollowsDates s s' v v' := by
  induction h with
  | same v => exact fun w hw => ⟨w, hw, .same w⟩
  | text =>
    intro w hw
    obtain rfl := Option.some.inj hw
    exact ⟨_, rfl, .text⟩
  | item front h back ih =>
    intro w hw
    rw [Value.withDates?] at hw
    obtain ⟨ws, hws, rfl⟩ := Option.map_eq_some_iff.mp hw
    obtain ⟨ws', hws', hrel⟩ := OneOff.itemsWithDates? (.split ih back front) hws
    exact ⟨_, by rw [Value.withDates?, hws']; rfl, hrel.array⟩
  | @entry front key v v' h back ih =>
    have hentries : ∀ {w},
        (Value.entriesWithDates? (front ++ (key, v) :: back)).map Value.table = some w →
          ∃ w', (Value.entriesWithDates? (front ++ (key, v') :: back)).map Value.table = some w' ∧
            w.Apart s s' w' := by
      intro w hw
      obtain ⟨u, hu, rfl⟩ := Option.map_eq_some_iff.mp hw
      obtain ⟨u', hu', hrel⟩ := OneOff.entriesWithDates? (.entry ih key front back) hu
      exact ⟨_, Option.map_eq_some_iff.mpr ⟨u', hu', rfl⟩, hrel.table⟩
    intro w hw
    cases front with
    | nil =>
      rw [List.nil_append, Value.withDates?_cons] at hw ⊢
      split_ifs at hw ⊢
      · obtain ⟨d, hd, rfl⟩ := Option.map_eq_some_iff.mp hw
        exact ⟨_, Option.map_eq_some_iff.mpr ⟨d, h.reservedDate? hs hd, rfl⟩, .same _⟩
      · exact hentries hw
    | cons e front =>
      rw [List.cons_append, Value.withDates?_cons] at hw ⊢
      split_ifs at hw ⊢
      · exact ⟨w, hw, .same w⟩
      · exact hentries hw

theorem OneOff.withDates? (hs : Toml.reservedDate? (.string s) = none) {t t' u : Table}
    (h : t.Apart s s' t') (hu : t.withDates? = some u) :
    ∃ u', t'.withDates? = some u' ∧ u.Apart s s' u' := by
  refine OneOff.entriesWithDates? ?_ hu
  have hmap := h.map (f := id) (S := Keyed (FollowsDates s s')) fun _ _ he =>
    ⟨he.1, he.2.withDates? hs⟩
  rwa [List.map_id, List.map_id] at hmap

end Apart

end WmConfig.Toml
