import WmConfig.Proofs.Toml.Assembly
import WmConfig.Proofs.Toml.Lines

/-! # One document after another

A document may follow another one on lines of its own. If it starts with a header and the two share
no key, what is read are the entries of the one and then those of the other (`document?_append`).
The expressions of the two stand one after the other, since each reader stops where it stopped
before (`expressionsOf?_append`); and the tables of the second are put together past those of the
first, which they never meet (`assemble?_append`). -/

namespace WmConfig.Toml

/-- The expressions of a text. -/
def expressionsOf? (text : String) : Option (List Expression) :=
  Syntax.expressions? (joinLineEnds (skipMark text.toList))

theorem parse?_eq (text : String) : parse? text = (expressionsOf? text).bind assemble? := rfl

/-! ### Texts one after the other -/

/-- A carriage return at the end of a text is none of a line end. -/
theorem return_mem_joinLineEnds : ∀ {cs : List Char}, cs.getLast? = some '\r' →
    '\r' ∈ joinLineEnds cs := by
  intro cs
  induction cs using joinLineEnds.induct with
  | case1 => intro h; cases h
  | case2 cs ih =>
    intro h
    rw [joinLineEnds]
    cases cs with
    | nil => exact absurd h (by decide)
    | cons c cs => exact List.mem_cons_of_mem _ (ih (by simpa using h))
  | case3 c cs hnot ih =>
    intro h
    rw [joinLineEnds.eq_3 _ _ hnot]
    cases cs with
    | nil => exact List.mem_cons.mpr (Or.inl (Option.some.inj h).symm)
    | cons c' cs => exact List.mem_cons_of_mem _ (ih (by simpa using h))

/-- Where a carriage return and a line feed do not meet, line ends are joined on either side. -/
theorem joinLineEnds_seam (more : List Char) : ∀ {cs : List Char},
    (cs.getLast? = some '\r' → more.head? ≠ some '\n') →
      joinLineEnds (cs ++ more) = joinLineEnds cs ++ joinLineEnds more := by
  intro cs
  induction cs using joinLineEnds.induct with
  | case1 => exact fun _ => rfl
  | case2 cs ih =>
    intro h
    rw [List.cons_append, List.cons_append, joinLineEnds, joinLineEnds, ih, List.cons_append]
    cases cs with
    | nil => simp
    | cons c cs => simpa using h
  | case3 c cs hnot ih =>
    intro h
    have hlast : cs.getLast? = some '\r' → more.head? ≠ some '\n' := by
      cases cs with
      | nil => simp
      | cons c' cs => simpa using h
    have hnot' : ∀ rest, c = '\r' → cs ++ more = '\n' :: rest → False := by
      rintro rest rfl heq
      cases cs with
      | nil => exact h rfl (congrArg List.head? heq)
      | cons c' cs => exact hnot cs rfl (by rw [(List.cons.inj heq).1])
    rw [List.cons_append, joinLineEnds.eq_3 _ _ hnot', joinLineEnds.eq_3 _ _ hnot, ih hlast,
      List.cons_append]

theorem skipMark_eq_self {cs : List Char} (h : cs.head? ≠ some '\ufeff') : skipMark cs = cs :=
  skipMark.eq_2 _ fun cs' heq => h (by rw [heq]; rfl)

theorem skipMark_append {more : List Char} (hmore : more.head? ≠ some '\ufeff') (cs : List Char) :
    skipMark (cs ++ more) = skipMark cs ++ more := by
  cases cs with
  | nil => exact skipMark_eq_self hmore
  | cons c cs =>
    rw [List.cons_append, skipMark.eq_def, skipMark.eq_def (c :: cs)]
    split
    · next heq =>
      obtain ⟨rfl, rfl⟩ := List.cons.inj heq
      rfl
    · next hnot =>
      split
      · next heq => exact absurd (by rw [(List.cons.inj heq).1]) (hnot (cs ++ more))
      · rfl

/-- The line feed between two texts ends the last line of the first one and nothing else. -/
theorem joinLineEnds_append {text₁ text₂ : String} {es₁ : List Expression}
    (h₁ : expressionsOf? text₁ = some es₁) :
    joinLineEnds (skipMark (text₁ ++ "\n" ++ text₂).toList) =
      joinLineEnds (skipMark text₁.toList) ++ '\n' :: joinLineEnds text₂.toList := by
  have hreturn : (skipMark text₁.toList).getLast? ≠ some '\r' := by
    intro hlast
    exact absurd (Syntax.isWritten_of_expressionsWithin h₁ _ (return_mem_joinLineEnds hlast))
      (by decide)
  have htext : (text₁ ++ "\n" ++ text₂).toList = text₁.toList ++ '\n' :: text₂.toList := by
    simp
  rw [htext, skipMark_append (by rw [List.head?_cons]; decide),
    joinLineEnds_seam _ fun hlast => absurd hlast hreturn, joinLineEnds.eq_3 _ _ (by simp)]

/-- **The expressions of one text and then those of the other.** -/
theorem expressionsOf?_append {text₁ text₂ : String} {es₁ es₂ : List Expression}
    (h₁ : expressionsOf? text₁ = some es₁) (h₂ : expressionsOf? text₂ = some es₂)
    (hmark : text₂.toList.head? ≠ some '\ufeff') :
    expressionsOf? (text₁ ++ "\n" ++ text₂) = some (es₁ ++ es₂) := by
  rw [expressionsOf?, skipMark_eq_self hmark] at h₂
  rw [expressionsOf?, joinLineEnds_append h₁, Syntax.expressions?_feed h₁, h₂]
  rfl

/-- **A fault in the second of two texts** is a fault of both in a row. -/
theorem expressionsOf?_append_eq_none {text₁ text₂ : String} {es₁ : List Expression}
    (h₁ : expressionsOf? text₁ = some es₁) (h₂ : expressionsOf? text₂ = none)
    (hmark : text₂.toList.head? ≠ some '\ufeff') :
    expressionsOf? (text₁ ++ "\n" ++ text₂) = none := by
  rw [expressionsOf?, skipMark_eq_self hmark] at h₂
  rw [expressionsOf?, joinLineEnds_append h₁, Syntax.expressions?_feed h₁, h₂]
  rfl

/-! ### Tables one after the other -/

theorem blocks_append {es' : List Expression} (h' : (blocks es').1 = []) : ∀ es : List Expression,
    blocks (es ++ es') = ((blocks es).1, (blocks es).2 ++ (blocks es').2)
  | [] => Prod.ext h' rfl
  | .keyLine line :: es => by rw [List.cons_append, blocks, blocks, blocks_append h' es]
  | .header h :: es => by
    rw [List.cons_append, blocks, blocks, blocks_append h' es, List.cons_append]

namespace Entries

theorem addHere_append {b : Block} {front t : Entries}
    (hfront : b.header.key ∉ front.map Prod.fst) :
    b.addHere (front ++ t) = (b.addHere t).map (front ++ ·) := by
  rw [Block.addHere, Block.addHere]
  split_ifs
  · exact alter?_append hfront
  · have hothers : front.filter (·.1 != b.header.key) = front := by
      rw [List.filter_eq_self]
      intro e he
      have hne : e.1 ≠ b.header.key := fun hkey => hfront (hkey ▸ List.mem_map_of_mem he)
      simpa using hne
    rw [List.lookup_append, lookup_eq_none_iff.mpr hfront, Option.none_or, List.filter_append,
      hothers, Option.map_map]
    exact congrArg (Option.map · _) (funext fun node => List.append_assoc _ _ _)

/-- The table of a header is added past entries with other keys. -/
theorem addTable?_append {b : Block} {front root : Entries}
    (hfront : b.header.top ∉ front.map Prod.fst) :
    addTable? b.header b.lines (front ++ root) =
      (addTable? b.header b.lines root).map (front ++ ·) := by
  rw [addTable?_eq]
  obtain ⟨⟨parents, key, isList⟩, lines⟩ := b
  cases parents with
  | cons parent parents =>
    rw [editAt?_cons]
    exact alter?_append hfront
  | nil => exact addHere_append hfront

/-- The first key of a header is there afterwards, and so are all keys that were there before. -/
theorem keys_addTable? {b : Block} {root root' : Entries}
    (h : addTable? b.header b.lines root = some root') :
    b.header.top ∈ root'.map Prod.fst ∧ ∀ key ∈ root.map Prod.fst, key ∈ root'.map Prod.fst := by
  obtain ⟨⟨new, -, hnew⟩, hothers⟩ := b.acts.lookup h
  have htop : b.header.top ∈ root'.map Prod.fst := List.mem_map_of_mem (mem_of_lookup hnew)
  refine ⟨htop, fun key hkey => ?_⟩
  by_cases hk : key = b.header.top
  · rwa [hk]
  · by_contra hmem
    rw [← lookup_eq_none_iff, hothers key hk, lookup_eq_none_iff] at hmem
    exact hmem hkey

/-- Adds the tables of blocks, one after the other. -/
abbrev addTables? (bs : List Block) (root : Entries) : Option Entries :=
  bs.foldlM (fun root b => addTable? b.header b.lines root) root

theorem tops_addTables? : ∀ {bs : List Block} {root root' : Entries},
    addTables? bs root = some root' →
      (∀ b ∈ bs, b.header.top ∈ root'.map Prod.fst) ∧
        ∀ key ∈ root.map Prod.fst, key ∈ root'.map Prod.fst
  | [], root, root', h => by
    obtain rfl := Option.some.inj h
    simp
  | b :: bs, root, root', h => by
    obtain ⟨next, hnext, h⟩ := Option.bind_eq_some_iff.mp h
    obtain ⟨htop, hkeys⟩ := keys_addTable? hnext
    obtain ⟨htops, hrest⟩ := tops_addTables? h
    exact ⟨List.forall_mem_cons.mpr ⟨hrest _ htop, htops⟩, fun key hkey => hrest _ (hkeys _ hkey)⟩

theorem addTables?_append {front : Entries} : ∀ {bs : List Block} {root root' : Entries},
    (∀ b ∈ bs, b.header.top ∉ front.map Prod.fst) → addTables? bs root = some root' →
      addTables? bs (front ++ root) = some (front ++ root')
  | [], root, root', _, h => by
    obtain rfl := Option.some.inj h
    rfl
  | b :: bs, root, root', hfront, h => by
    obtain ⟨hb, hbs⟩ := List.forall_mem_cons.mp hfront
    obtain ⟨next, hnext, h⟩ := Option.bind_eq_some_iff.mp h
    have hstep : addTable? b.header b.lines (front ++ root) = some (front ++ next) := by
      rw [addTable?_append hb]
      exact congrArg _ hnext
    exact Option.bind_eq_some_iff.mpr ⟨_, hstep, addTables?_append hbs h⟩

end Entries

/-- **Documents with different keys are put together side by side**, if the second one starts with a
header. -/
theorem assemble?_append {es₁ es₂ : List Expression} {t₁ t₂ : Table}
    (h₁ : assemble? es₁ = some t₁) (h₂ : assemble? es₂ = some t₂) (hheader : (blocks es₂).1 = [])
    (hkeys : ∀ key ∈ t₁.keys, key ∉ t₂.keys) : assemble? (es₁ ++ es₂) = some (t₁ ++ t₂) := by
  obtain ⟨first, hfirst, h₁⟩ := Option.bind_eq_some_iff.mp h₁
  obtain ⟨root₁, hroot₁, h₁⟩ := Option.bind_eq_some_iff.mp h₁
  obtain ⟨start, hstart, h₂⟩ := Option.bind_eq_some_iff.mp h₂
  obtain ⟨root₂, hroot₂, h₂⟩ := Option.bind_eq_some_iff.mp h₂
  obtain rfl := Option.some.inj h₁
  obtain rfl := Option.some.inj h₂
  rw [hheader] at hstart
  obtain rfl := Option.some.inj hstart
  have hkeys' : ∀ key ∈ root₁.map Prod.fst, key ∉ root₂.map Prod.fst := by
    simpa only [Table.keys, Entries.keys_toTable] using hkeys
  have htops : ∀ b ∈ (blocks es₂).2, b.header.top ∉ root₁.map Prod.fst := fun b hb hmem =>
    hkeys' _ hmem ((Entries.tops_addTables? hroot₂).1 b hb)
  have hjoined : Entries.addTables? ((blocks es₁).2 ++ (blocks es₂).2) first =
      some (root₁ ++ root₂) := by
    have hnext := Entries.addTables?_append htops hroot₂
    rw [List.append_nil] at hnext
    rw [Entries.addTables?, List.foldlM_append]
    exact Option.bind_eq_some_iff.mpr ⟨root₁, hroot₁, hnext⟩
  rw [assemble?, blocks_append hheader]
  refine Option.bind_eq_some_iff.mpr ⟨first, hfirst, Option.bind_eq_some_iff.mpr
    ⟨root₁ ++ root₂, hjoined, ?_⟩⟩
  simp only [Entries.toTable_eq_map, List.map_append]
  rfl

theorem entriesWithDates?_append : ∀ {t₁ t₂ t₁' t₂' : Table},
    Value.entriesWithDates? t₁ = some t₁' → Value.entriesWithDates? t₂ = some t₂' →
      Value.entriesWithDates? (t₁ ++ t₂) = some (t₁' ++ t₂')
  | [], t₂, t₁', t₂', h₁, h₂ => by
    obtain rfl := Option.some.inj h₁
    exact h₂
  | (key, v) :: t₁, t₂, t₁', t₂', h₁, h₂ => by
    obtain ⟨v', hv, h₁⟩ := Option.bind_eq_some_iff.mp h₁
    obtain ⟨rest, hrest, h₁⟩ := Option.bind_eq_some_iff.mp h₁
    obtain rfl := Option.some.inj h₁
    rw [List.cons_append, Value.entriesWithDates?, hv, entriesWithDates?_append hrest h₂]
    rfl

/-- The first expression of the text is a header. -/
def StartsWithHeader (text : String) : Prop :=
  ∃ h es, expressionsOf? text = some (.header h :: es)

/-- **A document after a document**, with a line feed between them: the second one starts with a
header and shares no key with the first, and both stand side by side in what is read. -/
theorem document?_append {text₁ text₂ : String} {root₁ root₂ : Table}
    (h₁ : document? text₁ = some root₁) (h₂ : document? text₂ = some root₂)
    (hheader : StartsWithHeader text₂) (hmark : text₂.toList.head? ≠ some '\ufeff')
    (hkeys : ∀ key ∈ root₁.keys, key ∉ root₂.keys) :
    document? (text₁ ++ "\n" ++ text₂) = some (root₁ ++ root₂) := by
  obtain ⟨t₁, ht₁, h₁⟩ := Option.bind_eq_some_iff.mp h₁
  obtain ⟨t₂, ht₂, h₂⟩ := Option.bind_eq_some_iff.mp h₂
  obtain ⟨es₁, hes₁, ht₁⟩ := Option.bind_eq_some_iff.mp ht₁
  obtain ⟨h, es, hes⟩ := hheader
  rw [parse?_eq, hes, Option.bind_some] at ht₂
  have hkeys' : ∀ key ∈ t₁.keys, key ∉ t₂.keys := by
    simpa only [Table.keys, keys_entriesWithDates h₁, keys_entriesWithDates h₂] using hkeys
  rw [document?, parse?_eq, expressionsOf?_append hes₁ hes hmark, Option.bind_some,
    assemble?_append ht₁ ht₂ rfl hkeys', Option.bind_some]
  exact entriesWithDates?_append h₁ h₂

end WmConfig.Toml
