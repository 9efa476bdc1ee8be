import WmConfig.Proofs.Toml.Apart
import WmConfig.Proofs.Toml.Draft

/-! # The place of a text in a document

A value may stand after the equals sign of a line, and in arrays and inline tables there. A text
that stops at such a place (`LeadsUp`) goes on with a value, so it is read the same whatever text
is written there, in whatever spelling (`LeadsUp.expressions?`): documents that go on with two
texts and are the same after that differ in this one text (`exists_apart`), and if no text can be
read there, there is no document (`document?_eq_none`). -/

namespace WmConfig.Toml

namespace Syntax

/-! ### Texts that lead up to a value -/

/-- Blanks, line ends and comments, each with the end of its line. -/
inductive Gap : List Char → Prop
  | nil : Gap []
  | skip {c : Char} {cs : List Char} (hc : c = ' ' ∨ c = '\t' ∨ c = '\n') (h : Gap cs) :
    Gap (c :: cs)
  | comment {text cs : List Char} (htext : ∀ c ∈ text, Quoted.isText c = true) (h : Gap cs) :
    Gap ('#' :: (text ++ '\n' :: cs))

/-- The second text is the first one from the start of one of its items on, where the text is an
array after the opening bracket. -/
inductive PastItems (depth : Nat) : List Char → List Char → Prop
  | first {gap cs : List Char} (hgap : Gap gap) : PastItems depth (gap ++ cs) cs
  | next {cs rest rest' cs' : List Char} {v : Value}
    (hv : value? depth (skipLines false cs) = some (v, rest))
    (hcomma : skipLines false rest = ',' :: rest') (h : PastItems depth rest' cs') :
    PastItems depth cs cs'

/-- The second text is the first one from the value of one of its keys on, where the text is an
inline table after the opening brace. -/
inductive PastPairs (depth : Nat) : List Char → List Char → Prop
  | first {cs cs' : List Char} {path : List String × String}
    (hpath : assigned? cs = some (path, cs')) : PastPairs depth cs cs'
  | next {cs cs₁ rest rest' cs' : List Char} {path : List String × String} {v : Value}
    (hpath : assigned? cs = some (path, cs₁)) (hv : value? depth cs₁ = some (v, rest))
    (hcomma : skipBlanks rest = ',' :: rest') (h : PastPairs depth rest' cs') :
    PastPairs depth cs cs'

/-- A value is to come next, where the text is one from the start of a value on; it may be within
arrays and inline tables that are still open. -/
inductive Awaits : Nat → List Char → Prop
  | here (depth : Nat) : Awaits depth []
  | item {depth : Nat} {cs cs' : List Char} (hpast : PastItems depth cs cs')
    (h : Awaits depth cs') : Awaits (depth + 1) ('[' :: cs)
  | entry {depth : Nat} {cs cs' : List Char} (hpast : PastPairs depth (skipBlanks cs) cs')
    (h : Awaits depth cs') : Awaits (depth + 1) ('\x7b' :: cs)

/-- **A text that leads up to a value**: whole lines, and then a line up to a value in it. -/
inductive LeadsUp : List Char → Prop
  | line {cs cs' : List Char} {path : List String × String}
    (hpath : assigned? (skipBlanks cs) = some (path, cs')) (h : Awaits maxDepth cs') : LeadsUp cs
  | after {cs last : List Char} {es : List Expression} (hlines : expressions? cs = some es)
    (h : LeadsUp last) : LeadsUp (cs ++ '\n' :: last)

/-- The text starts with a quote. -/
def Opens (cs : List Char) : Prop := ∃ c rest, cs = c :: rest ∧ (c = '\x22' ∨ c = '\'')

theorem Opens.stops {cs : List Char} (h : Opens cs) : Stops cs := by
  obtain ⟨c, rest, rfl, hc⟩ := h
  exact ⟨c, rest, rfl, by rcases hc with rfl | rfl <;> decide⟩

/-- **What is read hinges on the text that comes next**: if something is read, then a quoted text
is, and with any other text in its place the same is read apart from that text. -/
def Hinges {α : Type} (Apart : String → String → α → α → Prop)
    (read? : List Char → Option (α × List Char)) (cs : List Char) : Prop :=
  ∀ ⦃lit⦄, Opens lit → ∀ ⦃a more⦄, read? (cs ++ lit) = some (a, more) →
    ∃ text rest, Quoted.read? lit = some (text, rest) ∧ ∀ ⦃lit' text'⦄, Opens lit' →
      Quoted.read? lit' = some (text', rest) → ∃ a', read? (cs ++ lit') = some (a', more) ∧
        Apart (String.ofList text) (String.ofList text') a a'

/-! ### Any number of values -/

theorem lt_of_goesOn? {close : Char} {cs rest : List Char} {more : Bool}
    (h : goesOn? close cs = some (more, rest)) : rest.length < cs.length := by
  obtain ⟨c, rfl, -⟩ := exists_cons_of_goesOn? h
  exact Nat.lt_succ_self _

section Limits
variable {item? : List Char → Option (Value × List Char)}
  (hitem : ∀ cs v rest, item? cs = some (v, rest) → rest.length ≤ cs.length)
include hitem

/-- An array has no more items than characters. -/
theorem items?_limit : ∀ {limit limit' : Nat} {cs : List Char}, cs.length < limit →
    cs.length < limit' → items? item? limit cs = items? item? limit' cs
  | 0, _, _, h, _ => absurd h (Nat.not_lt_zero _)
  | _, 0, _, _, h => absurd h (Nat.not_lt_zero _)
  | limit + 1, limit' + 1, cs, h, h' => by
    rw [items?_succ, items?_succ]
    refine if_congr Iff.rfl rfl (Option.bind_congr fun read hread => ?_)
    refine Option.bind_congr fun next hnext => if_congr Iff.rfl (congrArg _ ?_) rfl
    have hlength := (lt_of_goesOn? hnext).trans_le ((leaves_skipLines false read.2).length_le.trans
      ((hitem _ _ _ hread).trans (leaves_skipLines false cs).length_le))
    exact items?_limit (by omega) (by omega)

/-- An inline table has no more keys than characters. -/
theorem pairs?_limit : ∀ {limit limit' : Nat} {cs : List Char}, cs.length ≤ limit →
    cs.length ≤ limit' → pairs? item? limit cs = pairs? item? limit' cs
  | 0, 0, _, _, _ => rfl
  | 0, limit' + 1, cs, h, _ => by
    rw [List.length_eq_zero_iff.mp (Nat.le_zero.mp h)]
    rfl
  | limit + 1, 0, cs, _, h' => by
    rw [List.length_eq_zero_iff.mp (Nat.le_zero.mp h')]
    rfl
  | limit + 1, limit' + 1, cs, h, h' => by
    rw [pairs?_succ, pairs?_succ]
    refine Option.bind_congr fun path hpath => Option.bind_congr fun read hread => ?_
    refine Option.bind_congr fun next hnext => if_congr Iff.rfl (congrArg _ ?_) rfl
    have hlength := (lt_of_goesOn? hnext).trans_le ((leaves_skipBlanks read.2).length_le.trans
      ((hitem _ _ _ hread).trans (extends_assigned _ _ _ hpath).1.length_le))
    exact pairs?_limit (by omega) (by omega)

end Limits

theorem length_le_of_value? (depth : Nat) (cs : List Char) (v : Value) (rest : List Char)
    (h : value? depth cs = some (v, rest)) : rest.length ≤ cs.length :=
  (extends_value depth _ _ _ h).1.length_le

/-- The items of an array, after the opening bracket. -/
def allItems? (depth : Nat) (cs : List Char) : Option (List Value × List Char) :=
  items? (value? depth) (cs.length + 1) cs

/-- The items that come after one of them. -/
def otherItems? (depth : Nat) (cs : List Char) : Option (List Value × List Char) :=
  (goesOn? ']' (skipLines false cs)).bind fun next =>
    if next.1 then allItems? depth next.2 else some ([], next.2)

theorem allItems?_eq (depth : Nat) (cs : List Char) : allItems? depth cs =
    if (skipLines false cs).head? = some ']' then some ([], (skipLines false cs).tail)
    else (value? depth (skipLines false cs)).bind fun read =>
      (otherItems? depth read.2).map fun items => (read.1 :: items.1, items.2) := by
  rw [allItems?, items?_succ]
  refine if_congr Iff.rfl rfl (Option.bind_congr fun read hread => ?_)
  rw [otherItems?, Option.map_bind]
  refine Option.bind_congr fun next hnext => ?_
  have hlength := (lt_of_goesOn? hnext).trans_le ((leaves_skipLines false read.2).length_le.trans
    ((length_le_of_value? _ _ _ _ hread).trans (leaves_skipLines false cs).length_le))
  rw [items?_limit (length_le_of_value? depth) hlength (Nat.lt_succ_self _), Function.comp_apply]
  split_ifs <;> rfl

/-- The keys of an inline table that is not empty, after the opening brace. -/
def allPairs? (depth : Nat) (cs : List Char) : Option (List KeyLine × List Char) :=
  pairs? (value? depth) cs.length cs

/-- The keys that come after one of them. -/
def otherPairs? (depth : Nat) (cs : List Char) : Option (List KeyLine × List Char) :=
  (goesOn? '\x7d' (skipBlanks cs)).bind fun next =>
    if next.1 then allPairs? depth next.2 else some ([], next.2)

theorem allPairs?_eq (depth : Nat) (cs : List Char) : allPairs? depth cs =
    (assigned? cs).bind fun path => (value? depth path.2).bind fun read =>
      (otherPairs? depth read.2).map fun lines =>
        (⟨path.1.1, path.1.2, read.1⟩ :: lines.1, lines.2) := by
  rw [allPairs?, pairs?_limit (length_le_of_value? depth) le_rfl (Nat.le_succ _), pairs?_succ]
  refine Option.bind_congr fun path hpath => Option.bind_congr fun read hread => ?_
  rw [otherPairs?, Option.map_bind]
  refine Option.bind_congr fun next hnext => ?_
  have hlength := (lt_of_goesOn? hnext).trans_le ((leaves_skipBlanks read.2).length_le.trans
    ((length_le_of_value? _ _ _ _ hread).trans (extends_assigned _ _ _ hpath).1.length_le))
  rw [pairs?_limit (length_le_of_value? depth) hlength.le le_rfl, Function.comp_apply]
  split_ifs <;> rfl

/-! ### Where a text stands -/

theorem skipLines_comment {text : List Char} (htext : ∀ c ∈ text, Quoted.isText c = true)
    (cs : List Char) : skipLines true (text ++ '\n' :: cs) = skipLines false cs := by
  induction text with
  | nil => rw [List.nil_append, skipLines, if_pos rfl]
  | cons c text ih =>
    obtain ⟨hc, htext⟩ := List.forall_mem_cons.mp htext
    have hfeed : c ≠ '\n' := by
      rintro rfl
      exact absurd hc (by decide)
    rw [List.cons_append, skipLines, if_neg hfeed, if_pos rfl, if_pos hc, ih htext]

theorem Gap.skipLines {gap : List Char} (h : Gap gap) (cs : List Char) :
    Syntax.skipLines false (gap ++ cs) = Syntax.skipLines false cs := by
  induction h with
  | nil => rfl
  | skip hc h ih => rcases hc with rfl | rfl | rfl <;> exact ih
  | comment htext h ih =>
    rw [List.cons_append, List.append_assoc, List.cons_append, ← ih]
    exact skipLines_comment htext _

/-- A value and what comes before the next one, in a longer text. -/
theorem value?_append {depth : Nat} {cs rest : List Char} {v : Value}
    (h : value? depth cs = some (v, rest)) (hrest : rest ≠ []) {more : List Char}
    (hmore : Stops more) : value? depth (cs ++ more) = some (v, rest ++ more) :=
  (extends_value depth _ _ _ h).2 more ⟨hmore, fun hnil => absurd hnil hrest⟩

section Places
variable {depth : Nat} {cs cs' : List Char}

/-- **What comes of a part** hinges on what the part hinges on: the part is read first, and what is
made of it and of the rest is the same apart from the text. -/
theorem Hinges.bind {α β : Type} {R : String → String → α → α → Prop}
    {S : String → String → β → β → Prop} {part? : List Char → Option (α × List Char)}
    {whole? : List Char → Option (β × List Char)} (h : Hinges R part? cs')
    (finish : α → List Char → Option (β × List Char))
    (hread : ∀ lit, Opens lit →
      whole? (cs ++ lit) = (part? (cs' ++ lit)).bind fun read => finish read.1 read.2)
    (hfinish : ∀ {s s' : String} {a a' : α} {rest more : List Char} {b : β}, R s s' a a' →
      finish a rest = some (b, more) → ∃ b', finish a' rest = some (b', more) ∧ S s s' b b') :
    Hinges S whole? cs := by
  intro lit hlit b more hb
  rw [hread lit hlit] at hb
  obtain ⟨⟨a, rest₁⟩, ha, hb⟩ := Option.bind_eq_some_iff.mp hb
  obtain ⟨text, rest, htext, hother⟩ := h hlit ha
  refine ⟨text, rest, htext, fun lit' text' hlit' htext' => ?_⟩
  obtain ⟨a', ha', hrel⟩ := hother hlit' htext'
  obtain ⟨b', hb', hrel'⟩ := hfinish hrel hb
  refine ⟨b', ?_, hrel'⟩
  rw [hread lit' hlit', ha']
  exact hb'

/-- **An item of an array**: the array hinges on what the item hinges on. -/
theorem PastItems.hinges (hpast : PastItems depth cs cs')
    (hstart : ∀ lit, Opens lit →
      skipLines false (cs' ++ lit) = cs' ++ lit ∧ (cs' ++ lit).head? ≠ some ']')
    (h : Hinges Value.Apart (value? depth) cs') :
    Hinges (fun s s' => OneOff (Value.Apart s s')) (allItems? depth) cs := by
  induction hpast with
  | @first gap cs' hgap =>
    refine h.bind (fun v rest => (otherItems? depth rest).map fun items => (v :: items.1, items.2))
      (fun lit hlit => ?_) fun hrel hread => ?_
    · rw [allItems?_eq, List.append_assoc, hgap.skipLines, (hstart lit hlit).1,
        if_neg (hstart lit hlit).2]
    · obtain ⟨others, hothers, heq⟩ := Option.map_eq_some_iff.mp hread
      obtain ⟨rfl, rfl⟩ := Prod.mk.inj heq
      exact ⟨_, Option.map_eq_some_iff.mpr ⟨others, hothers, rfl⟩, .here hrel _⟩
  | @next cs rest₁ rest' cs' v hv hcomma _ ih =>
    obtain ⟨c, front, hfront⟩ : ∃ c front, skipLines false cs = c :: front := by
      cases hcs : skipLines false cs with
      | nil => rw [hcs] at hv; cases depth <;> cases hv
      | cons c front => exact ⟨c, front, rfl⟩
    have hclose : c ≠ ']' := by
      rintro rfl
      rw [hfront] at hv
      cases depth <;> cases hv
    refine (ih hstart h).bind (fun items rest => some (v :: items, rest)) (fun lit hlit => ?_)
      fun hrel hread => ?_
    · rw [hfront] at hv
      have hv' := value?_append hv (by rintro rfl; cases hcomma) hlit.stops
      rw [allItems?_eq, skipLines_append hfront, if_neg (by simpa using hclose),
        ← List.cons_append, hv', Option.bind_some, otherItems?, skipLines_append hcomma]
      exact Option.map_eq_bind
    · obtain ⟨rfl, rfl⟩ := Prod.mk.inj (Option.some.inj hread)
      exact ⟨_, rfl, .there v hrel⟩

/-- **The value of a key** of an inline table: the table hinges on what the value hinges on. -/
theorem PastPairs.hinges (hpast : PastPairs depth cs cs')
    (h : Hinges Value.Apart (value? depth) cs') :
    Hinges (fun s s' => OneOff (KeyLine.Apart s s')) (allPairs? depth) cs := by
  induction hpast with
  | @first cs cs' path hpath =>
    refine h.bind (fun v rest => (otherPairs? depth rest).map fun lines =>
      (⟨path.1, path.2, v⟩ :: lines.1, lines.2)) (fun lit hlit => ?_) fun hrel hread => ?_
    · rw [allPairs?_eq, (extends_assigned _ _ _ hpath).2 lit hlit.stops, Option.bind_some]
    · obtain ⟨others, hothers, heq⟩ := Option.map_eq_some_iff.mp hread
      obtain ⟨rfl, rfl⟩ := Prod.mk.inj heq
      exact ⟨_, Option.map_eq_some_iff.mpr ⟨others, hothers, rfl⟩, .here ⟨rfl, rfl, hrel⟩ _⟩
  | @next cs cs₁ rest₁ rest' cs' path v hpath hv hcomma _ ih =>
    refine (ih h).bind (fun lines rest => some (⟨path.1, path.2, v⟩ :: lines, rest))
      (fun lit hlit => ?_) fun hrel hread => ?_
    · have hv' := value?_append hv (by rintro rfl; cases hcomma) hlit.stops
      rw [allPairs?_eq, (extends_assigned _ _ _ hpath).2 lit hlit.stops, Option.bind_some, hv',
        Option.bind_some, otherPairs?, skipBlanks_stop hlit.stops, hcomma]
      exact Option.map_eq_bind
    · obtain ⟨rfl, rfl⟩ := Prod.mk.inj (Option.some.inj hread)
      exact ⟨_, rfl, .there _ hrel⟩

theorem PastPairs.exists_assigned (hpast : PastPairs depth cs cs') :
    ∃ path rest, assigned? cs = some (path, rest) := by
  cases hpast with
  | first hpath => exact ⟨_, _, hpath⟩
  | next hpath => exact ⟨_, _, hpath⟩

theorem Awaits.start (h : Awaits depth cs) {lit : List Char} (hlit : Opens lit) :
    skipLines false (cs ++ lit) = cs ++ lit ∧ (cs ++ lit).head? ≠ some ']' := by
  cases h with
  | here =>
    obtain ⟨c, rest, rfl, rfl | rfl⟩ := hlit
    · exact ⟨rfl, by rw [List.nil_append, List.head?_cons]; decide⟩
    · exact ⟨rfl, by rw [List.nil_append, List.head?_cons]; decide⟩
  | item => exact ⟨rfl, by rw [List.cons_append, List.head?_cons]; decide⟩
  | entry => exact ⟨rfl, by rw [List.cons_append, List.head?_cons]; decide⟩

/-- **A value hinges on the text in it.** -/
theorem Awaits.hinges (h : Awaits depth cs) : Hinges Value.Apart (value? depth) cs := by
  induction h with
  | here depth =>
    rintro lit ⟨c, front, rfl, hc⟩ v more hread
    rw [List.nil_append, value?_quoted hc] at hread
    obtain ⟨⟨text, rest⟩, htext, heq⟩ := Option.map_eq_some_iff.mp hread
    obtain ⟨rfl, rfl⟩ := Prod.mk.inj heq
    refine ⟨text, rest, htext, ?_⟩
    rintro lit' text' ⟨c', front', rfl, hc'⟩ htext'
    refine ⟨_, ?_, .text⟩
    rw [List.nil_append, value?_quoted hc', htext']
    rfl
  | @item depth cs cs' hpast h ih =>
    refine (hpast.hinges (fun _ hlit => h.start hlit) ih).bind
      (fun items rest => some (.array items, rest)) (fun lit _ => Option.map_eq_bind)
      fun hrel hread => ?_
    obtain ⟨rfl, rfl⟩ := Prod.mk.inj (Option.some.inj hread)
    exact ⟨_, rfl, hrel.array⟩
  | @entry depth cs cs' hpast h ih =>
    refine (hpast.hinges ih).bind (fun lines rest =>
      (Entries.putAll? lines []).map fun t => (.table (Entries.toTable t), rest))
      (fun lit hlit => ?_) fun hrel hread => ?_
    · have hopen : (skipBlanks cs ++ lit).head? ≠ some '\x7d' := by
        obtain ⟨path, rest, hpath⟩ := hpast.exists_assigned
        cases hcs : skipBlanks cs with
        | nil => rw [hcs] at hpath; cases hpath
        | cons c front =>
          rintro ⟨⟩
          rw [hcs] at hpath
          cases hpath
      rw [← skipBlanks_stop hlit.stops] at hopen ⊢
      exact (inlineTable?_eq _ _).trans (if_neg hopen)
    · obtain ⟨t, ht, heq⟩ := Option.map_eq_some_iff.mp hread
      obtain ⟨rfl, rfl⟩ := Prod.mk.inj heq
      obtain ⟨t', ht', hrel'⟩ := hrel.putAll? rfl ht
      exact ⟨_, Option.map_eq_some_iff.mpr ⟨t', ht', rfl⟩, hrel'.toTable.table⟩

end Places

/-! ### Documents -/

/-- A key comes first in a line, so it is no header, no comment and not empty. -/
theorem line?_of_assigned? {cs rest : List Char} {path : List String × String}
    (h : assigned? cs = some (path, rest)) :
    line? cs = (keyLine? cs).map fun read => ([.keyLine read.1], read.2) := by
  rw [line?.eq_4]
  · rintro cs rfl
    cases h
  · rintro cs rfl
    cases h
  · rintro cs rfl
    cases h

/-- A document that starts with a key: its value, the end of the line, and what comes after that. -/
theorem expressions?_of_assigned? {cs rest : List Char} {path : List String × String}
    (h : assigned? (skipBlanks cs) = some (path, rest)) : expressions? cs =
      (value? maxDepth rest).bind fun read => (endLine? read.2).bind fun rest =>
        (expressions? rest).map (.keyLine ⟨path.1, path.2, read.1⟩ :: ·) := by
  have hne : ¬ (skipBlanks cs).isEmpty = true := by
    intro hempty
    rw [List.isEmpty_iff.mp hempty] at h
    cases h
  rw [expressions?_eq, if_neg hne, line?_of_assigned? h, keyLine?_eq, h, Option.bind_some]
  cases value? maxDepth rest with
  | none => rfl
  | some read => cases hend : endLine? read.2 <;> simp [hend]

/-- **A document hinges on the text in it.** -/
theorem LeadsUp.expressions? {cs : List Char} (h : LeadsUp cs) {lit : List Char} (hlit : Opens lit)
    {es : List Expression} (hes : Syntax.expressions? (cs ++ lit) = some es) :
    ∃ text rest, Quoted.read? lit = some (text, rest) ∧ ∀ lit' text', Opens lit' →
      Quoted.read? lit' = some (text', rest) → ∃ es', Syntax.expressions? (cs ++ lit') = some es' ∧
        OneOff (Expression.Apart (String.ofList text) (String.ofList text')) es es' := by
  induction h generalizing es with
  | @line cs cs' path hpath hawaits =>
    have hline : ∀ {lit}, Opens lit → Syntax.expressions? (cs ++ lit) =
        (value? maxDepth (cs' ++ lit)).bind fun read => (endLine? read.2).bind fun rest =>
          (Syntax.expressions? rest).map (.keyLine ⟨path.1, path.2, read.1⟩ :: ·) := by
      intro lit hlit
      refine expressions?_of_assigned? ?_
      rw [skipBlanks_stop hlit.stops]
      exact (extends_assigned _ _ _ hpath).2 lit hlit.stops
    rw [hline hlit] at hes
    obtain ⟨⟨v, more⟩, hv, hes⟩ := Option.bind_eq_some_iff.mp hes
    obtain ⟨next, hnext, hes⟩ := Option.bind_eq_some_iff.mp hes
    obtain ⟨others, hothers, rfl⟩ := Option.map_eq_some_iff.mp hes
    obtain ⟨text, rest, htext, hother⟩ := hawaits.hinges hlit hv
    refine ⟨text, rest, htext, fun lit' text' hlit' htext' => ?_⟩
    obtain ⟨v', hv', hrel⟩ := hother hlit' htext'
    refine ⟨.keyLine ⟨path.1, path.2, v'⟩ :: others, ?_, .here (.keyLine ⟨rfl, rfl, hrel⟩) _⟩
    rw [hline hlit', hv', Option.bind_some, hnext, Option.bind_some, hothers]
    rfl
  | @after cs last front hfront _ ih =>
    have hafter : ∀ lit, Syntax.expressions? (cs ++ '\n' :: last ++ lit) =
        (Syntax.expressions? (last ++ lit)).map (front ++ ·) := by
      intro lit
      rw [List.append_assoc, List.cons_append, expressions?_feed hfront]
    rw [hafter] at hes
    obtain ⟨below, hbelow, rfl⟩ := Option.map_eq_some_iff.mp hes
    obtain ⟨text, rest, htext, hother⟩ := ih hbelow
    refine ⟨text, rest, htext, fun lit' text' hlit' htext' => ?_⟩
    obtain ⟨below', hbelow', hrel⟩ := hother lit' text' hlit' htext'
    exact ⟨front ++ below', by rw [hafter, hbelow']; rfl, hrel.append_left front⟩

end Syntax

/-! ### Texts -/

section Texts
open Syntax Quoted

theorem Quoted.Spelling.opens {text lit : List Char} (h : Spelling text lit) (rest : List Char) :
    Opens (lit ++ rest) := by
  cases h with
  | basic => exact ⟨_, _, rfl, .inl rfl⟩
  | literal => exact ⟨_, _, rfl, .inr rfl⟩
  | lines hquote => exact ⟨_, _, rfl, hquote⟩

theorem Quoted.Misspelling.opens {cs : List Char} (h : Misspelling cs) : Opens cs := by
  cases h with
  | basic => exact ⟨_, _, rfl, .inl rfl⟩
  | lines => exact ⟨_, _, rfl, .inl rfl⟩

/-- Joining line ends keeps the first character, unless it belongs to a line end. -/
theorem head?_joinLineEnds (cs : List Char) :
    (joinLineEnds cs).head? = cs.head? ∨ (joinLineEnds cs).head? = some '\n' := by
  cases cs using joinLineEnds.fun_cases with
  | case1 => exact .inl rfl
  | case2 cs => exact .inr rfl
  | case3 c cs hnot => exact .inl (by rw [joinLineEnds.eq_3 _ _ hnot]; rfl)

theorem Syntax.Opens.of_joinLineEnds {cs : List Char} (h : Opens (joinLineEnds cs)) : Opens cs := by
  obtain ⟨c, rest, hcs, hc⟩ := h
  rcases head?_joinLineEnds cs with hhead | hhead
  · rw [hcs] at hhead
    cases cs with
    | nil => cases hhead
    | cons c' cs => exact ⟨c', cs, rfl, Option.some.inj hhead ▸ hc⟩
  · rw [hcs] at hhead
    obtain rfl := Option.some.inj hhead
    exact absurd hc (by decide)

theorem Quoted.Unquoted.joinLineEnds {cs : List Char} (h : Unquoted cs) :
    Unquoted (Toml.joinLineEnds cs) := by
  intro c hc
  rcases head?_joinLineEnds cs with hhead | hhead
  · exact h c (hhead ▸ hc)
  · rw [hhead] at hc
    obtain rfl := Option.some.inj hc
    decide

variable {before after : String}

/-- A text that goes on with a quote. -/
theorem joinLineEnds_opens {cs : List Char} (hcs : Opens cs) :
    joinLineEnds (skipMark (before.toList ++ cs)) =
      joinLineEnds (skipMark before.toList) ++ joinLineEnds cs := by
  have hhead : ∀ {c}, c ∉ ['\n', '\x22', '\''] → cs.head? ≠ some c := fun hc =>
    hcs.stops.head?_ne hc
  rw [skipMark_append (hhead (by decide)), joinLineEnds_seam _ fun _ => ?_]
  obtain ⟨c, rest, rfl, rfl | rfl⟩ := hcs
  · rw [List.head?_cons]; decide
  · rw [List.head?_cons]; decide

theorem joinLineEnds_spelling {text : List Char} {lit : String}
    (h : Spelling text (joinLineEnds lit.toList)) :
    joinLineEnds (skipMark (before ++ lit ++ after).toList) =
      joinLineEnds (skipMark before.toList) ++
        (joinLineEnds lit.toList ++ joinLineEnds after.toList) := by
  have hreturn : lit.toList.getLast? ≠ some '\r' := fun hlast =>
    absurd (h.isWritten _ (return_mem_joinLineEnds hlast)) (by decide)
  have hseam := joinLineEnds_seam after.toList fun hlast => absurd hlast hreturn
  rw [String.toList_append, String.toList_append, List.append_assoc, joinLineEnds_opens, hseam]
  refine Opens.of_joinLineEnds ?_
  rw [hseam]
  exact h.opens _

variable (hleads : LeadsUp (joinLineEnds (skipMark before.toList)))
include hleads

/-- **Documents that go on with two texts**, and are the same after that, differ in this one text. -/
theorem exists_apart {s s' lit lit' : String}
    (hlit : Spelling s.toList (joinLineEnds lit.toList))
    (hlit' : Spelling s'.toList (joinLineEnds lit'.toList)) (hafter : Unquoted after.toList)
    (hs : reservedDate? (.string s) = none) {root : Table}
    (h : document? (before ++ lit ++ after) = some root) :
    ∃ root', document? (before ++ lit' ++ after) = some root' ∧ root.Apart s s' root' := by
  rw [document?, parse?_eq, expressionsOf?, joinLineEnds_spelling hlit] at h
  obtain ⟨t, ht, hroot⟩ := Option.bind_eq_some_iff.mp h
  obtain ⟨es, hes, ht⟩ := Option.bind_eq_some_iff.mp ht
  obtain ⟨text, rest, htext, hother⟩ := hleads.expressions? (hlit.opens _) hes
  have hread := read?_spelling hlit hafter.joinLineEnds
  obtain ⟨rfl, rfl⟩ := Prod.mk.inj (Option.some.inj (htext.symm.trans hread))
  obtain ⟨es', hes', hrel⟩ :=
    hother _ _ (hlit'.opens _) (read?_spelling hlit' hafter.joinLineEnds)
  rw [String.ofList_toList, String.ofList_toList] at hrel
  obtain ⟨t', ht', hrel'⟩ := hrel.assemble? ht
  obtain ⟨root', hroot', hrel''⟩ := hrel'.withDates? hs hroot
  refine ⟨root', ?_, hrel''⟩
  rw [document?, parse?_eq, expressionsOf?, joinLineEnds_spelling hlit', hes', Option.bind_some,
    ht', Option.bind_some, hroot']

/-- **A text that cannot be read** is a fault of the document. -/
theorem document?_eq_none {tail : String} (h : Misspelling (joinLineEnds tail.toList)) :
    document? (before ++ tail) = none := by
  have hfault : expressions? (joinLineEnds (skipMark before.toList) ++ joinLineEnds tail.toList) =
      none := by
    rw [Option.eq_none_iff_forall_ne_some]
    intro es hes
    obtain ⟨text, rest, htext, -⟩ := hleads.expressions? h.opens hes
    cases htext.symm.trans (read?_misspelling h)
  rw [document?, parse?_eq, expressionsOf?, String.toList_append,
    joinLineEnds_opens h.opens.of_joinLineEnds, hfault]
  rfl

end Texts

end WmConfig.Toml
