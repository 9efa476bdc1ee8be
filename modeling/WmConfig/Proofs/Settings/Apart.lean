import WmConfig.Proofs.Settings.Differing
import WmConfig.Proofs.Toml.Places

/-! # Settings of documents that differ in one text

Where two documents differ in one text (`Table.Apart`), each of their sections, lists and fields
differs in this text at most. If it is the text of a field of a section, the documents differ there
only (`differsAt_of_text`); if it is one of a field of an entry, they differ in this entry only
(`swapped_of_text`). -/

namespace WmConfig.Settings

open Toml

section Apart
variable {s s' : String} {root root' : Table}

theorem rel_bind {α β γ δ : Type} {R : α → β → Prop} {S : γ → δ → Prop} {o : Option α}
    {o' : Option β} {f : α → Option γ} {f' : β → Option δ} (h : Option.Rel R o o')
    (hf : ∀ a a', R a a' → Option.Rel S (f a) (f' a')) : Option.Rel S (o.bind f) (o'.bind f') := by
  cases h with
  | none => exact .none
  | some h => exact hf _ _ h

theorem table?_apart {v v' : Value} (h : v.Apart s s' v') :
    Option.Rel (Table.Apart s s') v.table? v'.table? := by
  cases h with
  | same => cases v <;> first | exact .none | exact .some (.same _)
  | text => exact .none
  | item => exact .none
  | entry front key h back => exact .some (.entry h key front back)

theorem get?_apart {t t' : Table} (h : t.Apart s s' t') (key : String) :
    Option.Rel (Value.Apart s s') (t.get? key) (t'.get? key) := by
  rcases h.at_key key with ⟨hlookup, -⟩ | ⟨-, v, v', hv, hv', hrel⟩
  · rw [Table.get?, Table.get?, hlookup]
    cases t.lookup key with
    | none => exact .none
    | some v => exact .some (.same v)
  · rw [Table.get?, Table.get?, hv, hv']
    exact .some hrel

theorem sectionAt?_apart (h : root.Apart s s' root') (name : String) :
    Option.Rel (Table.Apart s s') (sectionAt? root name) (sectionAt? root' name) :=
  rel_bind (get?_apart h name) fun _ _ => table?_apart

theorem valueAt?_apart (h : root.Apart s s' root') (name key : String) :
    Option.Rel (Value.Apart s s') (valueAt? root name key) (valueAt? root' name key) :=
  rel_bind (sectionAt?_apart h name) fun _ _ ht => get?_apart ht key

theorem items_apart (h : root.Apart s s' root') (l : ListSection) :
    OneOff (Value.Apart s s') (l.items root) (l.items root') := by
  have hvalue := valueAt?_apart h l.name l.key
  unfold ListSection.items itemsOf
  unfold valueAt? at hvalue
  generalize (sectionAt? root l.name).bind (Table.get? · l.key) = o,
    (sectionAt? root' l.name).bind (Table.get? · l.key) = o' at hvalue
  cases hvalue with
  | none => exact .same _
  | some h =>
    cases h with
    | same => exact .same _
    | text => exact .here .text []
    | item front h back => exact .split h back front
    | entry front key h back => exact .here (.entry front key h back) []

theorem keptTable?_apart (titled : Bool) {v v' : Value} (h : v.Apart s s' v') :
    Option.Rel (Table.Apart s s') (keptTable? titled v) (keptTable? titled v') := by
  have htable := table?_apart h
  unfold keptTable?
  generalize v.table? = o, v'.table? = o' at htable
  cases htable with
  | none => exact .none
  | @some t t' ht =>
    have htitle : (Table.get? t' "title").any Value.isString =
        (Table.get? t "title").any Value.isString := by
      have hget := get?_apart ht "title"
      generalize Table.get? t "title" = o, Table.get? t' "title" = o' at hget
      cases hget with
      | none => rfl
      | some h => cases h <;> rfl
    rw [Option.filter_some, Option.filter_some, htitle]
    split_ifs
    · exact .some ht
    · exact .none

theorem keptTables_apart (h : root.Apart s s' root') (l : ListSection) :
    OneOff (Table.Apart s s') (l.keptTables root) (l.keptTables root') :=
  (items_apart h l).filterMap fun _ _ => keptTable?_apart l.titled

/-- **Where the documents differ**, they differ nowhere else. -/
theorem differsAt_of_apart (h : root.Apart s s' root') {name key : String}
    (hne : valueAt? root name key ≠ valueAt? root' name key) : DiffersAt name key root root' := by
  have hget : root.lookup name ≠ root'.lookup name := fun heq =>
    hne (ReadsOnly.valueAt name key heq)
  obtain ⟨-, hothers⟩ := h.lookup_eq_of_ne hget
  have hsection := sectionAt?_apart h name
  unfold valueAt? at hne
  generalize ht : sectionAt? root name = o, ht' : sectionAt? root' name = o' at hsection hne
  cases hsection with
  | none => exact absurd rfl hne
  | @some t t' hrel =>
    obtain ⟨-, hfields⟩ := hrel.lookup_eq_of_ne hne
    refine ⟨hothers, by rw [notTable_of_section ht, notTable_of_section ht'], fun k hk => ?_⟩
    rw [valueAt?, valueAt?, ht, ht']
    exact hfields k hk

theorem eq_of_apart (h : root.Apart s s root') : root = root' := Value.table.inj h.table.eq

/-- **A field of a section** whose text is the one in which the documents differ. -/
theorem differsAt_of_text (h : root.Apart s s' root') {name key : String}
    (hs : valueAt? root name key = some (.string s))
    (hs' : valueAt? root' name key = some (.string s')) : DiffersAt name key root root' := by
  by_cases heq : s = s'
  · subst heq
    obtain rfl := eq_of_apart h
    exact .refl
  · refine differsAt_of_apart h ?_
    rw [hs, hs']
    intro hstring
    exact heq (Value.string.inj (Option.some.inj hstring))

/-- The place of a member of a filtered list in the whole list. -/
theorem exists_of_getElem?_filterMap {α β : Type} {f : α → Option β} {b : β} :
    ∀ {l : List α} {i : Nat}, (l.filterMap f)[i]? = some b →
      ∃ front a back, l = front ++ a :: back ∧ f a = some b ∧ (front.filterMap f).length = i
  | [], i, h => by cases h
  | a :: l, i, h => by
    cases ha : f a with
    | none =>
      rw [List.filterMap_cons_none ha] at h
      obtain ⟨front, a', back, rfl, ha', hlength⟩ := exists_of_getElem?_filterMap h
      exact ⟨a :: front, a', back, rfl, ha', by rwa [List.filterMap_cons_none ha]⟩
    | some b' =>
      rw [List.filterMap_cons_some ha] at h
      cases i with
      | zero => exact ⟨[], a, l, rfl, ha.trans h, rfl⟩
      | succ i =>
        obtain ⟨front, a', back, rfl, ha', hlength⟩ := exists_of_getElem?_filterMap h
        exact ⟨a :: front, a', back, rfl, ha', by
          rw [List.filterMap_cons_some ha, List.length_cons, hlength]⟩

theorem Swapped.refl {l : ListSection} {index : Nat} {key : String} {t : Table}
    (ht : (l.keptTables root)[index]? = some t) : Swapped l index key t t root root := by
  obtain ⟨front, item, back, hitems, hkept, hlength⟩ := exists_of_getElem?_filterMap ht
  obtain ⟨rfl, -⟩ := keptTable?_eq_some_iff.mp hkept
  exact ⟨.refl, ⟨front, back, hitems, hitems, hlength⟩, hkept, hkept, fun _ _ => rfl⟩

/-- **A field of an entry** whose text is the one in which the documents differ. -/
theorem swapped_of_text (h : root.Apart s s' root') {l : ListSection} {index : Nat} {key : String}
    {t t' : Table} (ht : (l.keptTables root)[index]? = some t)
    (ht' : (l.keptTables root')[index]? = some t') (hs : t.get? key = some (.string s))
    (hs' : t'.get? key = some (.string s')) : Swapped l index key t t' root root' := by
  by_cases heq : s = s'
  · subst heq
    obtain rfl := eq_of_apart h
    obtain rfl := Option.some.inj (ht.symm.trans ht')
    exact .refl ht
  have hget : t.get? key ≠ t'.get? key := by
    rw [hs, hs']
    intro hstring
    exact heq (Value.string.inj (Option.some.inj hstring))
  have hne : t ≠ t' := fun htable => hget (congrArg (Table.get? · key) htable)
  have hdiffers : DiffersAt l.name l.key root root' := by
    refine differsAt_of_apart h fun hvalue => hne (Option.some.inj ?_)
    rw [← ht, ← ht', ListSection.keptTables, ListSection.keptTables, ListSection.items_congr hvalue]
  obtain ⟨front, item, item', back, hitems, hitems', hrel, hkept, hkept', hlength⟩ :=
    (items_apart h l).exists_split_of_ne (f := keptTable? l.titled)
      (fun _ _ => keptTable?_apart l.titled) ht ht' hne
  obtain ⟨rfl, -⟩ := keptTable?_eq_some_iff.mp hkept
  obtain ⟨rfl, -⟩ := keptTable?_eq_some_iff.mp hkept'
  obtain ⟨_, ⟨⟩, htable⟩ := hrel.of_table
  exact ⟨hdiffers, ⟨front, back, hitems, hitems', hlength⟩, hkept, hkept',
    (htable.lookup_eq_of_ne hget).2⟩

end Apart

end WmConfig.Settings
