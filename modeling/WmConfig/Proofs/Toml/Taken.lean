import WmConfig.Proofs.Toml.Steps

/-! # Keys that are taken

A key that has been given a value, or a table of its own by a header, is taken for good: each later
step leaves it so (`Takes.putAt?`, `Takes.addTable?`), or fails if it would give the key once more
(`Takes.putAt?_eq_none`, `Takes.addTable?_eq_none`). Only a further table of a list starts again
with the keys below the list. -/

namespace WmConfig.Toml

/-- The path of a key line below its header. -/
def KeyLine.path (line : KeyLine) : List String := line.parents ++ [line.key]

/-- How a key is taken. -/
inductive Use where
  /-- By a value. -/
  | value
  /-- By a header of its own. -/
  | header
deriving DecidableEq

namespace Entries

/-! ### Taken keys -/

/-- The key at the end of the path is taken. The path leads through the last table of a list. -/
inductive Takes (u : Use) : List String → Entries → Prop
  | value {k : String} {t : Entries} {v : Value} (h : t.lookup k = some (.value v))
      (hu : u = .value) : Takes u [k] t
  | header {k : String} {t sub : Entries} (h : t.lookup k = some (.table .header sub))
      (hu : u = .header) : Takes u [k] t
  | table {k : String} {path : List String} {t sub : Entries} {origin : Origin}
      (h : t.lookup k = some (.table origin sub)) (hs : Takes u path sub) : Takes u (k :: path) t
  | tables {k : String} {path : List String} {t last : Entries} {items : List Entries}
      (h : t.lookup k = some (.tables items)) (hlast : items.getLast? = some last)
      (hs : Takes u path last) : Takes u (k :: path) t

namespace Takes

variable {u : Use} {path path' : List String} {t t' : Entries}

theorem ne_nil (h : Takes u path t) : path ≠ [] := by
  cases h <;> exact List.cons_ne_nil _ _

theorem isSome_lookup {k : String} (h : Takes u (k :: path) t) : (t.lookup k).isSome := by
  cases h with
  | value h | header h | table h | tables h => rw [h]; rfl

theorem of_lookup {k : String} (h : Takes u (k :: path) t) (hk : t'.lookup k = t.lookup k) :
    Takes u (k :: path) t' := by
  cases h with
  | value h hu => exact .value (hk.trans h) hu
  | header h hu => exact .header (hk.trans h) hu
  | table h hs => exact .table (hk.trans h) hs
  | tables h hlast hs => exact .tables (hk.trans h) hlast hs

section Edits
variable {opened self : Origin} {edit : Origin → Entries → Option Entries} {node : Option Node}
  {sub sub' : Entries} {back : Entries → Node} {k : String}

/-- What is taken in the table that a way into a node leads to is taken at the node. -/
theorem of_enters (henters : Enters opened node self sub back)
    (hlookup : t'.lookup k = some (back sub')) (hsub : Takes u path' sub') :
    Takes u (k :: path') t' := by
  cases henters with
  | missing => exact .table hlookup hsub
  | table => exact .table hlookup hsub
  | last => exact .tables hlookup List.getLast?_concat hsub

/-- Of what is taken at a node, a way into the node leads to all but the table of a header itself,
which no dotted key leads into. -/
theorem enters (ht : Takes u (k :: path') t) (henters : Enters opened (t.lookup k) self sub back) :
    Takes u path' sub ∨ path' = [] ∧ u = .header ∧ opened ≠ .dotted ∧
      ∀ sub', back sub' = .table .header sub' := by
  cases ht with
  | value h =>
    rw [h] at henters
    cases henters
  | header h hu =>
    rw [h] at henters
    cases henters with
    | table hopened => exact .inr ⟨rfl, hu, fun h => hopened ⟨h, rfl⟩, fun _ => rfl⟩
  | table h hs =>
    rw [h] at henters
    cases henters with
    | table => exact .inl hs
  | tables h hlast hs =>
    rw [h] at henters
    cases henters with
    | last front last =>
      rw [List.getLast?_concat] at hlast
      exact .inl (Option.some.inj hlast ▸ hs)

/-- A key stays taken in an edit that leaves it so at the end of its path. -/
theorem editAt? (hedit : ∀ rest, path' = path ++ rest → ∀ self sub sub', edit self sub = some sub' →
      Takes u rest sub → Takes u rest sub')
    (h : Entries.editAt? opened edit path self t = some t') (ht : Takes u path' t) :
    Takes u path' t' := by
  induction path generalizing path' self t t' with
  | nil => exact hedit path' rfl self t t' h ht
  | cons k path ih =>
    rw [editAt?_cons] at h
    obtain ⟨⟨new, hnew, hlookup⟩, hother⟩ := lookup_alter? h
    obtain ⟨k', rest, rfl⟩ := List.exists_cons_of_ne_nil ht.ne_nil
    by_cases hk : k' = k
    case neg => exact ht.of_lookup (hother k' hk)
    subst hk
    obtain ⟨self', sub, back, sub', henters, hsub, rfl⟩ := into?_eq_some_iff.mp hnew
    rcases ht.enters henters with hs | ⟨rfl, hu, -, hback⟩
    · refine of_enters henters hlookup (ih (fun rest' hrest => hedit rest' ?_) hsub hs)
      rw [hrest, List.cons_append]
    · exact .header (hlookup.trans (congrArg some (hback sub'))) hu

/-- What an edit takes at the end of its path. -/
theorem of_editAt? (hedit : ∀ self sub sub', edit self sub = some sub' → Takes u path' sub')
    (h : Entries.editAt? opened edit path self t = some t') : Takes u (path ++ path') t' := by
  induction path generalizing self t t' with
  | nil => exact hedit self t t' h
  | cons k path ih =>
    rw [editAt?_cons] at h
    obtain ⟨⟨new, hnew, hlookup⟩, -⟩ := lookup_alter? h
    obtain ⟨self', sub, back, sub', henters, hsub, rfl⟩ := into?_eq_some_iff.mp hnew
    exact of_enters henters hlookup (ih hsub)

/-- No path leads through a value, and none of dotted keys through the table of a header. -/
theorem editAt?_through (ht : Takes u path' t) (hpath : path' <+: path)
    (hu : u = .value ∨ opened = .dotted) : Entries.editAt? opened edit path self t = none := by
  induction path generalizing path' self t with
  | nil => exact absurd (List.prefix_nil.mp hpath) ht.ne_nil
  | cons k path ih =>
    obtain ⟨k', rest, rfl⟩ := List.exists_cons_of_ne_nil ht.ne_nil
    obtain ⟨rfl, hrest⟩ := List.cons_prefix_cons.mp hpath
    rw [editAt?_cons]
    refine alter?_eq_none (into?_eq_none fun self' sub back henters => ?_)
    rcases ht.enters henters with hs | ⟨-, hheader, hopened, -⟩
    · exact ih hs hrest
    · rcases hu with hvalue | hdotted
      · cases hheader.symm.trans hvalue
      · exact absurd hdotted hopened

/-- An edit fails that fails at the end of its path. -/
theorem editAt?_eq_none {rest : List String} (hrest : rest ≠ []) (ht : Takes u (path ++ rest) t)
    (hedit : ∀ self sub, Takes u rest sub → edit self sub = none) :
    Entries.editAt? opened edit path self t = none := by
  induction path generalizing self t with
  | nil => exact hedit self t ht
  | cons k path ih =>
    rw [editAt?_cons]
    refine alter?_eq_none (into?_eq_none fun self' sub back henters => ?_)
    rcases ht.enters henters with hs | ⟨hnil, -⟩
    · exact ih hs
    · exact absurd (List.append_eq_nil_iff.mp hnil).2 hrest

end Edits

/-! ### Key lines -/

section Lines
variable {line : KeyLine} {under : List String}

theorem put? (h : Entries.put? line t = some t') (ht : Takes u path t) : Takes u path t' := by
  refine ht.editAt? (fun rest _ self sub sub' hsub hrest => ?_) h
  obtain ⟨-, -, rfl⟩ := KeyLine.putHere_eq_some_iff.mp hsub
  obtain ⟨k, rest, rfl⟩ := List.exists_cons_of_ne_nil hrest.ne_nil
  refine hrest.of_lookup ?_
  rw [List.lookup_append, Option.or_of_isSome hrest.isSome_lookup]

/-- A key line takes its key. -/
theorem of_put? (h : Entries.put? line t = some t') : Takes .value line.path t' :=
  of_editAt? (fun _ _ _ hsub => .value ((KeyLine.lookup_putHere hsub _).trans (if_pos rfl)) rfl) h

/-- A key line gives no key that is taken, none below a value, and none in which one is taken. -/
theorem put?_eq_none (ht : Takes u path t) (hpath : path <+: line.path ∨ line.path <+: path) :
    Entries.put? line t = none := by
  have hlast : ∀ rest, path = line.parents ++ line.key :: rest → Entries.put? line t = none := by
    rintro rest rfl
    exact ht.editAt?_eq_none (List.cons_ne_nil _ _) fun self sub hsub =>
      KeyLine.putHere_eq_none hsub.isSome_lookup
  rcases hpath with hpath | ⟨rest, hpath⟩
  · rcases List.prefix_concat_iff.mp hpath with heq | hparents
    · exact hlast [] heq
    · exact ht.editAt?_through hparents (Or.inr rfl)
  · exact hlast rest (by rw [← hpath, KeyLine.path, List.append_assoc, List.singleton_append])

theorem putAt? (h : Entries.putAt? under line t = some t') (ht : Takes u path t) :
    Takes u path t' :=
  ht.editAt? (fun _ _ _ _ _ hsub hrest => hrest.put? hsub) h

theorem of_putAt? (h : Entries.putAt? under line t = some t') :
    Takes .value (under ++ line.path) t' :=
  of_editAt? (fun _ _ _ hsub => of_put? hsub) h

/-- A key line below a header gives no key once more. A key that the table of a header takes is
given once more by the lines of another table only: those below the header are in it. -/
theorem putAt?_eq_none (ht : Takes u path t)
    (hpath : path <+: under ++ line.path ∨ under ++ line.path <+: path)
    (hu : u = .value ∨ under <+: path ∧ under ≠ path) : Entries.putAt? under line t = none := by
  have hbelow : ∀ rest, rest ≠ [] → path = under ++ rest → Entries.putAt? under line t = none := by
    rintro rest hrest rfl
    rw [List.prefix_append_right_inj, List.prefix_append_right_inj] at hpath
    exact ht.editAt?_eq_none hrest fun _ _ hsub => hsub.put?_eq_none hpath
  by_cases hunder : under <+: path ∧ under ≠ path
  · obtain ⟨⟨rest, rfl⟩, hne⟩ := hunder
    refine hbelow rest ?_ rfl
    rintro rfl
    exact hne (List.append_nil _).symm
  · have hvalue := hu.resolve_right hunder
    refine ht.editAt?_through ?_ (Or.inl hvalue)
    have hback : under <+: path → path <+: under := fun h =>
      not_and_not_right.mp hunder h ▸ List.prefix_rfl
    rcases hpath with hpath | hpath
    · exact (List.prefix_or_prefix_of_prefix hpath (List.prefix_append under _)).elim id hback
    · exact hback ((List.prefix_append under _).trans hpath)

end Lines

/-! ### Headers -/

section Headers
variable {h : Header}

/-- Where a header starts a table, a taken key is none of its own but one below it: within the
table that was implied before, or in a list. -/
theorem starts {base : Entries} {back : Entries → Node} (ht : Takes u (h.key :: path) t)
    (hstarts : h.Starts (t.lookup h.key) base back) :
    path ≠ [] ∧ (h.isList = false → Takes u path base ∧ ∀ t', back t' = .table .header t') := by
  cases ht with
  | value h | header h =>
    rw [h] at hstarts
    cases hstarts
  | table h hs =>
    rw [h] at hstarts
    cases hstarts with
    | implied => exact ⟨hs.ne_nil, fun _ => ⟨hs, fun _ => rfl⟩⟩
  | tables h hlast hs =>
    rw [h] at hstarts
    cases hstarts with
    | next hlist => exact ⟨hs.ne_nil, fun hnot => by rw [hlist] at hnot; cases hnot⟩

/-- A header leaves a key taken, unless it starts a further table of a list with the key in it. -/
theorem addTable? (hopen : Entries.addTable? h [] t = some t')
    (hlist : ¬(h.isList = true ∧ h.path <+: path ∧ h.path ≠ path)) (ht : Takes u path t) :
    Takes u path t' := by
  rw [addTable?_eq ⟨h, []⟩] at hopen
  refine ht.editAt? (fun rest hpath self sub sub' hsub hrest => ?_) hopen
  obtain ⟨⟨new, hnew, hhere⟩, hothers⟩ := Block.lookup_addHere hsub
  obtain ⟨k, rest, rfl⟩ := List.exists_cons_of_ne_nil hrest.ne_nil
  by_cases hk : k = h.key
  case neg => exact hrest.of_lookup (hothers k hk)
  subst hk
  obtain ⟨base, back, below, hstarts, hbelow, rfl⟩ := Block.open?_eq_some_iff.mp hnew
  obtain rfl := Option.some.inj hbelow
  obtain ⟨hne, hbase⟩ := hrest.starts hstarts
  have htable : h.isList = false := by
    refine eq_false_of_ne_true fun hisList => hlist ⟨hisList, ⟨rest, ?_⟩, ?_⟩
    · rw [hpath, Header.path, List.append_assoc, List.singleton_append]
    · rw [hpath, Header.path]
      simpa using hne
  obtain ⟨hs, hback⟩ := hbase htable
  exact .table (hhere.trans (congrArg some (hback _))) hs

/-- The header of a table takes its key. -/
theorem of_addTable? (hopen : Entries.addTable? h [] t = some t') (hlist : h.isList = false) :
    Takes .header h.path t' := by
  rw [addTable?_eq ⟨h, []⟩] at hopen
  refine of_editAt? (fun self sub sub' hsub => ?_) hopen
  obtain ⟨⟨new, hnew, hhere⟩, -⟩ := Block.lookup_addHere hsub
  generalize List.lookup _ sub = node at hnew
  obtain ⟨base, back, below, hstarts, -, rfl⟩ := Block.open?_eq_some_iff.mp hnew
  cases hstarts with
  | new | implied => exact .header hhere rfl
  | first hisList | next hisList => cases hlist.symm.trans hisList

/-- A header opens no key that is taken, and none below a value. -/
theorem addTable?_eq_none (ht : Takes u path t)
    (hpath : h.path = path ∨ u = .value ∧ path <+: h.path) :
    Entries.addTable? h [] t = none := by
  rw [addTable?_eq ⟨h, []⟩]
  have hlast : path = h.path → Entries.editAt? .implied (fun _ => Block.addHere ⟨h, []⟩)
      h.parents .header t = none := by
    rintro rfl
    exact ht.editAt?_eq_none (List.cons_ne_nil _ _) fun self sub hsub =>
      Block.addHere_eq_none (Block.open?_eq_none fun base back hstarts => (hsub.starts hstarts).1 rfl)
  rcases hpath with hpath | ⟨hu, hpath⟩
  · exact hlast hpath.symm
  · rcases List.prefix_concat_iff.mp hpath with heq | hparents
    · exact hlast heq
    · exact ht.editAt?_through hparents (Or.inl hu)

end Headers

end Takes

end Entries

end WmConfig.Toml
