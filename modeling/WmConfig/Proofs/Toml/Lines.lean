import WmConfig.Proofs.Toml.Continuation
import WmConfig.Proofs.Toml.Readers

/-! # Documents read line by line

A document is read one line at a time (`Syntax.expressions?_eq`). Keys, values and lines are read the
same in a text that goes on after a line feed, and so are the expressions of a document if another
document follows it on lines of its own (`Syntax.expressions?_feed`); if what follows has a fault, so
has the whole. On the way it is shown that a document holds no control characters but tabs and line
feeds (`Syntax.isWritten_of_expressionsWithin`). -/

namespace WmConfig.Toml

/-! ### Keys -/

namespace Syntax

theorem skipBlanks_feed (cs more : List Char) :
    skipBlanks (cs ++ '\n' :: more) = skipBlanks cs ++ '\n' :: more := dropWhile_feed rfl cs more

theorem leaves_skipBlanks (cs : List Char) : Leaves cs (skipBlanks cs) :=
  .dropWhile (fun c hc => by
    simp only [Bool.or_eq_true, beq_iff_eq] at hc
    rcases hc with rfl | rfl <;> decide) cs

theorem isWritten_of_isBare {c : Char} (h : isBare c = true) : isWritten c = true := by
  simp only [isBare, Bool.or_eq_true, beq_iff_eq] at h
  rcases h with (h | rfl) | rfl
  · exact Quoted.isWritten_of_isAlphanum h
  all_goals decide

theorem skipBlanks_stop {more : List Char} (hmore : Stops more) (cs : List Char) :
    skipBlanks (cs ++ more) = skipBlanks cs ++ more :=
  dropWhile_append_stop (hmore.head? (by decide)) cs

theorem extends_simpleKey : Extends (fun _ => Stops) simpleKey? simpleKey? := by
  intro cs key rest h
  rw [simpleKey?.eq_def] at h
  split at h
  · obtain ⟨hleaves, hread⟩ := (Quoted.extends_basic.map String.ofList) _ _ _ h
    exact ⟨.cons (by decide) hleaves, fun more _ => hread more trivial⟩
  · obtain ⟨hleaves, hread⟩ := (Quoted.extends_literal.map String.ofList) _ _ _ h
    exact ⟨.cons (by decide) hleaves, fun more _ => hread more trivial⟩
  · next hbasic hliteral =>
    simp only at h
    split_ifs at h with hempty
    obtain ⟨rfl, rfl⟩ := Prod.mk.inj (Option.some.inj h)
    refine ⟨.dropWhile (fun _ => isWritten_of_isBare) cs, fun more hmore => ?_⟩
    have hne : cs ≠ [] := by
      rintro rfl
      exact hempty rfl
    obtain ⟨c, cs, rfl⟩ := List.exists_cons_of_ne_nil hne
    have hquote : c ≠ '\x22' ∧ c ≠ '\'' :=
      ⟨fun hc => hbasic cs (by rw [hc]), fun hc => hliteral cs (by rw [hc])⟩
    have hstop := hmore.head? (p := isBare) (by decide)
    rw [simpleKey?.eq_3 _ (by simp [hquote.1]) (by simp [hquote.2]), takeWhile_append_stop hstop,
      dropWhile_append_stop hstop]
    simp only [if_neg hempty]

theorem extends_keyPath : ∀ limit, Extends (fun _ => Stops) (keyPath? limit) (keyPath? limit)
  | 0, cs, path, rest, h => by cases h
  | limit + 1, cs, path, rest, h => by
    rw [keyPath?] at h
    obtain ⟨⟨key, cs₁⟩, hkey, h⟩ := Option.bind_eq_some_iff.mp h
    obtain ⟨hkeyLeaves, hkeyMore⟩ := extends_simpleKey _ _ _ hkey
    have hfirst := (leaves_skipBlanks cs).trans (hkeyLeaves.trans (leaves_skipBlanks cs₁))
    simp only at h
    split at h
    · next rest' hdot =>
      obtain ⟨⟨⟨path', last⟩, cs₂⟩, hpath, h⟩ := Option.bind_eq_some_iff.mp h
      obtain ⟨rfl, rfl⟩ := Prod.mk.inj (Option.some.inj h)
      obtain ⟨hleaves, hread⟩ := extends_keyPath limit _ _ _ hpath
      rw [hdot] at hfirst
      refine ⟨hfirst.trans (.cons (by decide) hleaves), fun more hmore => ?_⟩
      rw [keyPath?, skipBlanks_stop hmore, hkeyMore more hmore]
      simp only [Option.bind_eq_bind, Option.bind_some, skipBlanks_stop hmore, hdot,
        List.cons_append, hread more hmore]
      rfl
    · next hdot =>
      obtain ⟨rfl, rfl⟩ := Prod.mk.inj (Option.some.inj h)
      refine ⟨hfirst, fun more hmore => ?_⟩
      rw [keyPath?, skipBlanks_stop hmore, hkeyMore more hmore]
      simp only [Option.bind_eq_bind, Option.bind_some, skipBlanks_stop hmore]
      split
      · next rest' heq =>
        obtain ⟨cs₂, hcs₂, -⟩ := exists_cons_of_append (hmore.head?_ne (by decide)) heq
        exact absurd hcs₂ (hdot cs₂)
      · rfl

theorem extends_assigned : Extends (fun _ => Stops) assigned? assigned? := by
  intro cs path rest h
  rw [assigned?] at h
  split at h
  · next path' rest' hpath =>
    obtain ⟨rfl, rfl⟩ := Prod.mk.inj (Option.some.inj h)
    obtain ⟨hleaves, hread⟩ := extends_keyPath _ _ _ _ hpath
    refine ⟨hleaves.trans (.cons (by decide) (leaves_skipBlanks _)), fun more hmore => ?_⟩
    rw [assigned?, hread more hmore]
    simp only [List.cons_append, skipBlanks_stop hmore]
  · cases h

/-! ### Values -/

theorem leaves_skipLines : ∀ (inComment : Bool) (cs : List Char),
    Leaves cs (skipLines inComment cs) := by
  intro inComment cs
  induction inComment, cs using skipLines.induct with
  | case1 => exact .refl _
  | case2 inComment cs ih =>
    rw [skipLines, if_pos rfl]
    exact .cons (by decide) ih
  | case3 c cs hfeed htext ih =>
    rw [skipLines, if_neg hfeed, if_pos rfl, if_pos htext]
    exact .cons (Quoted.isWritten_of_isText htext) ih
  | case4 c cs hfeed htext =>
    rw [skipLines, if_neg hfeed, if_pos rfl, if_neg htext]
    exact .refl _
  | case5 inComment cs hcomment hfeed ih =>
    rw [skipLines, if_neg hfeed, if_neg hcomment, if_pos rfl]
    exact .cons (by decide) ih
  | case6 inComment c cs hfeed hcomment hhash hblank ih =>
    rw [skipLines, if_neg hfeed, if_neg hcomment, if_neg hhash, if_pos hblank]
    refine .cons ?_ ih
    rcases hblank with rfl | rfl <;> decide
  | case7 inComment c cs hfeed hcomment hhash hblank =>
    rw [skipLines, if_neg hfeed, if_neg hcomment, if_neg hhash, if_neg hblank]
    exact .refl _

/-- What is not skipped is not skipped in a longer text either. -/
theorem skipLines_append {inComment : Bool} {cs rest : List Char} {c : Char}
    (h : skipLines inComment cs = c :: rest) (more : List Char) :
    skipLines inComment (cs ++ more) = c :: (rest ++ more) := by
  induction inComment, cs using skipLines.induct with
  | case1 => cases h
  | case2 inComment cs ih =>
    rw [skipLines, if_pos rfl] at h
    rw [List.cons_append, skipLines, if_pos rfl, ih h]
  | case3 c cs hfeed htext ih =>
    rw [skipLines, if_neg hfeed, if_pos rfl, if_pos htext] at h
    rw [List.cons_append, skipLines, if_neg hfeed, if_pos rfl, if_pos htext, ih h]
  | case4 c cs hfeed htext =>
    rw [skipLines, if_neg hfeed, if_pos rfl, if_neg htext] at h
    rw [List.cons_append, skipLines, if_neg hfeed, if_pos rfl, if_neg htext, ← List.cons_append, h]
    rfl
  | case5 inComment cs hcomment hfeed ih =>
    rw [skipLines, if_neg hfeed, if_neg hcomment, if_pos rfl] at h
    rw [List.cons_append, skipLines, if_neg hfeed, if_neg hcomment, if_pos rfl, ih h]
  | case6 inComment c cs hfeed hcomment hhash hblank ih =>
    rw [skipLines, if_neg hfeed, if_neg hcomment, if_neg hhash, if_pos hblank] at h
    rw [List.cons_append, skipLines, if_neg hfeed, if_neg hcomment, if_neg hhash, if_pos hblank,
      ih h]
  | case7 inComment c cs hfeed hcomment hhash hblank =>
    rw [skipLines, if_neg hfeed, if_neg hcomment, if_neg hhash, if_neg hblank] at h
    rw [List.cons_append, skipLines, if_neg hfeed, if_neg hcomment, if_neg hhash, if_neg hblank,
      ← List.cons_append, h]
    rfl

/-- Another value or the end of several comes next, whatever the text goes on with. -/
theorem extends_goesOn {close : Char} (hclose : isWritten close = true)
    {skip : List Char → List Char} (hleaves : ∀ cs, Leaves cs (skip cs))
    (hskip : ∀ {cs c rest more}, skip cs = c :: rest → Stops more →
      skip (cs ++ more) = c :: (rest ++ more)) :
    Extends MayFollow (fun cs => goesOn? close (skip cs)) fun cs => goesOn? close (skip cs) := by
  intro cs goesOn rest h
  obtain ⟨c, hcs, hc, hread⟩ := exists_cons_of_goesOn? h
  have hwritten : isWritten c = true := by
    rcases hc with rfl | rfl
    · exact hclose
    · decide
  exact ⟨(hcs ▸ hleaves cs).trans (.cons hwritten (.refl _)), fun more hmore =>
    (congrArg (goesOn? close) (hskip hcs hmore.1)).trans (hread _)⟩

theorem extends_goesOn_items : Extends MayFollow (fun cs => goesOn? ']' (skipLines false cs))
    fun cs => goesOn? ']' (skipLines false cs) :=
  extends_goesOn (by decide) (leaves_skipLines false) fun hcs _ => skipLines_append hcs _

theorem extends_goesOn_pairs : Extends MayFollow (fun cs => goesOn? '\x7d' (skipBlanks cs))
    fun cs => goesOn? '\x7d' (skipBlanks cs) :=
  extends_goesOn (by decide) leaves_skipBlanks fun hcs hmore => by
    rw [skipBlanks_stop hmore, hcs, List.cons_append]

section Several
variable {α γ : Type} {read? : List Char → Option (α × List Char)}
  {others? others'? : List Char → Option (List γ × List Char)}

/-- The others come after one of several values, or none does. -/
theorem extends_others (h : Extends MayFollow others? others'?) (c : γ) : ∀ goesOn : Bool,
    Extends MayFollow
      (fun cs => if goesOn then (others? cs).map fun cs => (c :: cs.1, cs.2) else some ([c], cs))
      fun cs => if goesOn then (others'? cs).map fun cs => (c :: cs.1, cs.2) else some ([c], cs)
  | true => h.map (c :: ·)
  | false => .pure [c]

variable (hread : Extends MayFollow read? read?)
include hread

theorem extends_readItems : ∀ {limit limit' : Nat}, limit ≤ limit' →
    Extends MayFollow (readItems? read? limit) (readItems? read? limit')
  | 0, _, _, cs, as, rest, h => by cases h
  | limit + 1, 0, hle, _, _, _, _ => absurd hle (by omega)
  | limit + 1, limit' + 1, hle, cs, as, rest, h => by
    have hstart := leaves_skipLines false cs
    rw [readItems?] at h
    cases hskip : skipLines false cs with
    | nil =>
      -- Nothing is left, so the closing bracket is missing.
      rw [hskip] at h
      obtain ⟨⟨a, cs₁⟩, ha, h⟩ := Option.bind_eq_some_iff.mp h
      obtain rfl := (hread _ _ _ ha).1.eq_nil
      cases h
    | cons c cs₀ =>
      rw [hskip] at h hstart
      split_ifs at h with hclose
      · obtain rfl := Option.some.inj hclose
        obtain ⟨rfl, rfl⟩ := Prod.mk.inj (Option.some.inj h)
        refine ⟨hstart.trans (.cons (by decide) (.refl _)), fun more _ => ?_⟩
        rw [readItems?, skipLines_append hskip]
        rfl
      · have hothers := extends_readItems (Nat.le_of_succ_le_succ hle)
        have hall := hread.bind fun a => extends_goesOn_items.bind (extends_others hothers a)
        obtain ⟨hleaves, hmore⟩ := hall _ _ _ h
        refine ⟨hstart.trans hleaves, fun more hfollow => ?_⟩
        rw [readItems?, skipLines_append hskip]
        exact (if_neg hclose).trans (hmore more hfollow)

theorem extends_readPairs (line : List String × String → α → γ) : ∀ {limit limit' : Nat},
    limit ≤ limit' → Extends MayFollow (readPairs? line read? limit) (readPairs? line read? limit')
  | 0, _, _, cs, ls, rest, h => by cases h
  | limit + 1, 0, hle, _, _, _, _ => absurd hle (by omega)
  | limit + 1, limit' + 1, hle, cs, ls, rest, h => by
    have hothers := extends_readPairs line (Nat.le_of_succ_le_succ hle)
    have hall := extends_assigned.mayFollow.bind fun path => hread.bind fun a =>
      extends_goesOn_pairs.bind (extends_others hothers (line path a))
    exact hall cs ls rest h

end Several

section Items
variable {item? : List Char → Option (Value × List Char)} (hitem : Extends MayFollow item? item?)
include hitem

theorem extends_items {limit limit' : Nat} (h : limit ≤ limit') :
    Extends MayFollow (items? item? limit) (items? item? limit') := by
  rw [funext (items?_eq limit), funext (items?_eq limit')]
  exact extends_readItems hitem h

theorem extends_pairs {limit limit' : Nat} (h : limit ≤ limit') :
    Extends MayFollow (pairs? item? limit) (pairs? item? limit') := by
  rw [funext (pairs?_eq limit), funext (pairs?_eq limit')]
  exact extends_readPairs hitem _ h

theorem extends_inlineTable : Extends MayFollow (inlineTable? item?) (inlineTable? item?) := by
  intro cs v rest h
  have hstart := leaves_skipBlanks cs
  rw [inlineTable?] at h
  split at h
  · next rest' hclose =>
    obtain ⟨rfl, rfl⟩ := Prod.mk.inj (Option.some.inj h)
    rw [hclose] at hstart
    refine ⟨hstart.trans (.cons (by decide) (.refl _)), fun more hmore => ?_⟩
    rw [inlineTable?, skipBlanks_stop hmore.1, hclose]
    rfl
  · next hopen =>
    obtain ⟨⟨lines, cs₁⟩, hlines, h⟩ := Option.bind_eq_some_iff.mp h
    obtain ⟨t, ht, h⟩ := Option.bind_eq_some_iff.mp h
    obtain ⟨rfl, rfl⟩ := Prod.mk.inj (Option.some.inj h)
    obtain ⟨hleaves, -⟩ := extends_pairs hitem (Nat.le_refl _) _ _ _ hlines
    refine ⟨hstart.trans hleaves, fun more hmore => ?_⟩
    obtain ⟨-, hread⟩ := extends_pairs hitem
      (show (skipBlanks cs).length ≤ (skipBlanks cs ++ more).length by simp) _ _ _ hlines
    rw [inlineTable?, skipBlanks_stop hmore.1]
    split
    · next rest' heq =>
      obtain ⟨cs₂, hcs₂, -⟩ := exists_cons_of_append (hmore.1.head?_ne (by decide)) heq
      exact absurd hcs₂ (hopen cs₂)
    · simp only [hread more hmore, Option.bind_eq_bind, Option.bind_some, ht]
      rfl

end Items

theorem extends_value : ∀ depth, Extends MayFollow (value? depth) (value? depth)
  | depth, cs, v, rest, h => by
    rw [value?.eq_def] at h
    split at h
    · next depth rest' =>
      have hitems := fun more => (extends_items (extends_value depth)
        (show rest'.length + 1 ≤ (rest' ++ more).length + 1 by simp)).map Value.array
      exact ⟨.cons (by decide) (hitems [] _ _ _ h).1,
        fun more hmore => (hitems more _ _ _ h).2 more hmore⟩
    · next depth rest' =>
      obtain ⟨hleaves, hread⟩ := extends_inlineTable (extends_value depth) _ _ _ h
      exact ⟨.cons (by decide) hleaves, hread⟩
    · next harray htable =>
      have htext := Quoted.extends_read.map fun text => Value.string (String.ofList text)
      split at h
      · obtain ⟨hleaves, hread⟩ := htext _ _ _ h
        exact ⟨hleaves, fun more hmore => (value?_quoted (.inl rfl)).trans (hread more hmore)⟩
      · obtain ⟨hleaves, hread⟩ := htext _ _ _ h
        exact ⟨hleaves, fun more hmore => (value?_quoted (.inr rfl)).trans (hread more hmore)⟩
      · next hbasic hliteral =>
        obtain ⟨hleaves, hread⟩ := Scalar.extends_read _ _ _ h
        refine ⟨hleaves, fun more hmore => ?_⟩
        -- Something is read, so what decides stands in the text itself.
        cases cs with
        | nil => cases h
        | cons c cs =>
          rw [value?.eq_5, hread more hmore.1]
          · exact fun depth' _ hdepth heq =>
              harray depth' cs hdepth (by rw [(List.cons.inj heq).1])
          · exact fun depth' _ hdepth heq =>
              htable depth' cs hdepth (by rw [(List.cons.inj heq).1])
          · exact fun _ heq => hbasic cs (by rw [(List.cons.inj heq).1])
          · exact fun _ heq => hliteral cs (by rw [(List.cons.inj heq).1])

theorem continues_assigned : Continues assigned? assigned? := extends_assigned.mayFollow.continues

theorem continues_value (depth : Nat) : Continues (value? depth) (value? depth) :=
  (extends_value depth).continues

/-! ### Expressions -/

/-- Where reading goes on in the longer text: after the rest of the shorter one, or past the line
feed if that was used up to end a line. -/
def Resumes (rest more next : List Char) : Prop :=
  next = rest ++ '\n' :: more ∨ rest = [] ∧ next = more

/-- A reader of whole lines goes on in a longer text. -/
def ContinuesLines {α : Type} (read? : List Char → Option (α × List Char)) : Prop :=
  ∀ cs a rest, read? cs = some (a, rest) → Leaves cs rest ∧ ∀ more, ∃ next,
    read? (cs ++ '\n' :: more) = some (a, next) ∧ Resumes rest more next

theorem leaves_lineTail (cs : List Char) : Leaves cs (lineTail cs) := by
  have hstart := leaves_skipBlanks cs
  unfold lineTail
  split
  · next cs' hcs' =>
    rw [hcs'] at hstart
    exact hstart.trans (.cons (by decide) (.dropWhile (fun _ => Quoted.isWritten_of_isText) cs'))
  · exact hstart

theorem lineTail_feed (cs more : List Char) :
    lineTail (cs ++ '\n' :: more) = lineTail cs ++ '\n' :: more := by
  unfold lineTail
  rw [skipBlanks_feed]
  split
  · next rest heq =>
    obtain ⟨cs', hcs', rfl⟩ := exists_cons_of_feed (by decide) heq
    rw [hcs']
    exact dropWhile_feed rfl cs' more
  · next hnot =>
    split
    · next cs' hcs' => exact absurd (by rw [hcs']; rfl) (hnot (cs' ++ '\n' :: more))
    · rfl

theorem endLine?_feed {cs rest : List Char} (h : endLine? cs = some rest) :
    Leaves cs rest ∧ ∀ more, ∃ next, endLine? (cs ++ '\n' :: more) = some next ∧
      Resumes rest more next := by
  have htail := leaves_lineTail cs
  rw [endLine?_eq] at h
  split at h
  · next hnil =>
    obtain rfl := Option.some.inj h
    rw [hnil] at htail
    refine ⟨htail, fun more => ⟨more, ?_, Or.inr ⟨rfl, rfl⟩⟩⟩
    rw [endLine?_eq, lineTail_feed, hnil]
    rfl
  · next cs' hfeed =>
    obtain rfl := Option.some.inj h
    rw [hfeed] at htail
    refine ⟨htail.trans (.cons (by decide) (.refl _)), fun more => ⟨_, ?_, Or.inl rfl⟩⟩
    rw [endLine?_eq, lineTail_feed, hfeed]
    rfl
  · cases h

section Combine
variable {α β : Type} {read? : List Char → Option (α × List Char)}

theorem continues_endLine (a : α) :
    ContinuesLines fun cs => (endLine? cs).map fun rest => (a, rest) := by
  intro cs a' rest h
  obtain ⟨rest, hend, heq⟩ := Option.map_eq_some_iff.mp h
  obtain ⟨rfl, rfl⟩ := Prod.mk.inj heq
  obtain ⟨hleaves, hmore⟩ := endLine?_feed hend
  refine ⟨hleaves, fun more => ?_⟩
  obtain ⟨next, hnext, hresumes⟩ := hmore more
  exact ⟨next, Option.map_eq_some_iff.mpr ⟨next, hnext, rfl⟩, hresumes⟩

theorem ContinuesLines.map (h : ContinuesLines read?) (f : α → β) :
    ContinuesLines fun cs => (read? cs).map fun read => (f read.1, read.2) := by
  intro cs b rest hb
  obtain ⟨⟨a, rest⟩, ha, heq⟩ := Option.map_eq_some_iff.mp hb
  obtain ⟨rfl, rfl⟩ := Prod.mk.inj heq
  obtain ⟨hleaves, hmore⟩ := h cs a rest ha
  refine ⟨hleaves, fun more => ?_⟩
  obtain ⟨next, hnext, hresumes⟩ := hmore more
  exact ⟨next, Option.map_eq_some_iff.mpr ⟨_, hnext, rfl⟩, hresumes⟩

/-- A reader within a line, and then one up to its end. -/
theorem continuesLines_bind (h : Continues read? read?)
    {next? : α → List Char → Option (β × List Char)} (hnext : ∀ a, ContinuesLines (next? a)) :
    ContinuesLines fun cs => (read? cs).bind fun read => next? read.1 read.2 := by
  intro cs b rest hb
  obtain ⟨⟨a, mid⟩, ha, hb⟩ := Option.bind_eq_some_iff.mp hb
  obtain ⟨hleaves, hread⟩ := h cs a mid ha
  obtain ⟨hleaves', hmore⟩ := hnext a mid b rest hb
  refine ⟨hleaves.trans hleaves', fun more => ?_⟩
  obtain ⟨next, hnext, hresumes⟩ := hmore more
  exact ⟨next, Option.bind_eq_some_iff.mpr ⟨_, hread more, hnext⟩, hresumes⟩

end Combine

theorem continues_keyLine : ContinuesLines keyLine? := by
  rw [funext keyLine?_eq]
  exact continuesLines_bind continues_assigned fun path =>
    continuesLines_bind (continues_value maxDepth) fun v =>
      continues_endLine (KeyLine.mk path.1 path.2 v)

theorem continues_header : ContinuesLines header? := by
  intro cs header rest h
  rw [header?.eq_def] at h
  split at h
  · next cs' =>
    split at h
    · next parents key rest' hpath =>
      obtain ⟨hpathLeaves, hpathMore⟩ := (extends_keyPath _).mayFollow.continues _ _ _ hpath
      obtain ⟨hendLeaves, hendMore⟩ := continues_endLine (Header.mk parents key true) _ _ _ h
      refine ⟨.cons (by decide) (hpathLeaves.trans (.cons (by decide) (.cons (by decide)
        hendLeaves))), fun more => ?_⟩
      rw [List.cons_append, header?, hpathMore]
      exact hendMore more
    · cases h
  · next hnot =>
    split at h
    · next parents key rest' hpath =>
      obtain ⟨hpathLeaves, hpathMore⟩ := (extends_keyPath _).mayFollow.continues _ _ _ hpath
      obtain ⟨hendLeaves, hendMore⟩ := continues_endLine (Header.mk parents key false) _ _ _ h
      refine ⟨hpathLeaves.trans (.cons (by decide) hendLeaves), fun more => ?_⟩
      rw [header?.eq_2, hpathMore]
      · exact hendMore more
      · intro rest₂ heq
        obtain ⟨cs', rfl, -⟩ := exists_cons_of_feed (by decide) heq
        exact hnot cs' rfl
    · cases h

theorem continues_line : ContinuesLines line? := by
  intro cs es rest h
  rw [line?.eq_def] at h
  split at h
  · obtain ⟨rfl, rfl⟩ := Prod.mk.inj (Option.some.inj h)
    exact ⟨.cons (by decide) (.refl _), fun more => ⟨_, rfl, Or.inl rfl⟩⟩
  · exact continues_endLine [] _ _ _ h
  · obtain ⟨hleaves, hmore⟩ := continues_header.map (fun h => [Expression.header h]) _ _ _ h
    exact ⟨.cons (by decide) hleaves, hmore⟩
  · next hfeed hcomment hheader =>
    obtain ⟨hleaves, hmore⟩ := continues_keyLine.map (fun l => [Expression.keyLine l]) _ _ _ h
    refine ⟨hleaves, fun more => ?_⟩
    rw [line?.eq_4]
    · exact hmore more
    · intro rest₂ heq
      cases cs with
      | nil => cases h
      | cons c cs => exact hfeed cs (by rw [(List.cons.inj heq).1])
    · intro rest₂ heq
      obtain ⟨cs', rfl, -⟩ := exists_cons_of_feed (by decide) heq
      exact hcomment cs' rfl
    · intro rest₂ heq
      obtain ⟨cs', rfl, -⟩ := exists_cons_of_feed (by decide) heq
      exact hheader cs' rfl

/-- More lines than there are may be allowed for. -/
theorem expressionsWithin?_mono : ∀ {limit limit' : Nat}, limit ≤ limit' →
    ∀ {cs : List Char} {es : List Expression}, expressionsWithin? limit cs = some es →
      expressionsWithin? limit' cs = some es
  | 0, limit', _, cs, es, h => by
    rw [expressionsWithin?] at h
    split_ifs at h with hempty
    rw [List.isEmpty_iff.mp hempty]
    cases limit' <;> exact h
  | limit + 1, 0, hle, _, _, _ => absurd hle (by omega)
  | limit + 1, limit' + 1, hle, cs, es, h => by
    rw [expressionsWithin?_succ] at h ⊢
    split_ifs at h ⊢
    · exact h
    · obtain ⟨read, hline, h⟩ := Option.bind_eq_some_iff.mp h
      obtain ⟨es', hes, rfl⟩ := Option.map_eq_some_iff.mp h
      rw [hline, Option.bind_some, expressionsWithin?_mono (Nat.le_of_succ_le_succ hle) hes]
      rfl

/-- A document holds text characters and line feeds only. -/
theorem isWritten_of_expressionsWithin : ∀ {limit : Nat} {cs : List Char} {es : List Expression},
    expressionsWithin? limit cs = some es → ∀ c ∈ cs, isWritten c = true
  | 0, cs, es, h => by
    rw [expressionsWithin?] at h
    split_ifs at h with hempty
    rw [List.isEmpty_iff.mp hempty]
    simp
  | limit + 1, cs, es, h => by
    rw [expressionsWithin?_succ] at h
    obtain ⟨used, hcs, hused⟩ := leaves_skipBlanks cs
    rw [hcs]
    refine List.forall_mem_append.mpr ⟨hused, ?_⟩
    split_ifs at h with hempty
    · rw [List.isEmpty_iff.mp hempty]
      simp
    · obtain ⟨⟨es₁, rest⟩, hline, h⟩ := Option.bind_eq_some_iff.mp h
      obtain ⟨es', hes, rfl⟩ := Option.map_eq_some_iff.mp h
      obtain ⟨⟨used', hcs', hused'⟩, -⟩ := continues_line _ _ _ hline
      rw [hcs']
      exact List.forall_mem_append.mpr ⟨hused', isWritten_of_expressionsWithin hes⟩

theorem length_lt_of_assigned? {cs rest : List Char} {path : List String × String}
    (h : assigned? cs = some (path, rest)) : rest.length < cs.length := by
  rw [assigned?] at h
  split at h
  · next rest' hkey =>
    obtain ⟨-, rfl⟩ := Prod.mk.inj (Option.some.inj h)
    have hle := (extends_keyPath _ _ _ _ hkey).1.length_le
    have hblanks := (leaves_skipBlanks rest').length_le
    rw [List.length_cons] at hle
    omega
  · cases h

theorem length_lt_of_comment {cs rest : List Char} (h : endLine? ('#' :: cs) = some rest) :
    rest.length < ('#' :: cs).length := by
  have htail : lineTail ('#' :: cs) = cs.dropWhile Quoted.isText := rfl
  have hle := (List.dropWhile_suffix (p := Quoted.isText) (l := cs)).length_le
  rw [endLine?_eq, htail] at h
  rw [List.length_cons]
  split at h
  · cases h
    exact Nat.succ_pos _
  · next heq =>
    cases h
    rw [heq, List.length_cons] at hle
    omega
  · cases h

/-- A line takes at least a character. -/
theorem length_lt_of_line? {cs rest : List Char} {es : List Expression}
    (h : line? cs = some (es, rest)) : rest.length < cs.length := by
  rw [line?.eq_def] at h
  split at h
  · obtain ⟨-, rfl⟩ := Prod.mk.inj (Option.some.inj h)
    exact Nat.lt_succ_self _
  · obtain ⟨rest', hend, hread⟩ := Option.map_eq_some_iff.mp h
    obtain ⟨-, rfl⟩ := Prod.mk.inj hread
    exact length_lt_of_comment hend
  · obtain ⟨⟨header, rest'⟩, hheader, hread⟩ := Option.map_eq_some_iff.mp h
    obtain ⟨-, rfl⟩ := Prod.mk.inj hread
    exact Nat.lt_succ_of_le (continues_header _ _ _ hheader).1.length_le
  · obtain ⟨⟨line, rest'⟩, hline, hread⟩ := Option.map_eq_some_iff.mp h
    obtain ⟨-, rfl⟩ := Prod.mk.inj hread
    rw [keyLine?_eq] at hline
    obtain ⟨⟨path, cs₁⟩, hpath, hline⟩ := Option.bind_eq_some_iff.mp hline
    have hafter := continuesLines_bind (continues_value maxDepth) fun v =>
      continues_endLine (KeyLine.mk path.1 path.2 v)
    exact (hafter _ _ _ hline).1.length_le.trans_lt (length_lt_of_assigned? hpath)

/-- As many lines as there are characters are enough. -/
theorem expressionsWithin?_length : ∀ {limit : Nat} {cs : List Char} {es : List Expression},
    expressionsWithin? limit cs = some es → expressionsWithin? cs.length cs = some es
  | 0, cs, es, h => by
    rw [expressionsWithin?] at h
    split_ifs at h with hempty
    rw [List.isEmpty_iff.mp hempty, ← Option.some.inj h]
    rfl
  | limit + 1, [], es, h => h
  | limit + 1, c :: cs, es, h => by
    rw [expressionsWithin?_succ] at h
    rw [List.length_cons, expressionsWithin?_succ]
    split_ifs at h ⊢
    · exact h
    · obtain ⟨⟨es₁, rest⟩, hline, h⟩ := Option.bind_eq_some_iff.mp h
      obtain ⟨es₂, hes, rfl⟩ := Option.map_eq_some_iff.mp h
      have hlt : rest.length < (c :: cs).length :=
        Nat.lt_of_lt_of_le (length_lt_of_line? hline) (leaves_skipBlanks (c :: cs)).length_le
      rw [hline, Option.bind_some,
        expressionsWithin?_mono (Nat.le_of_lt_succ hlt) (expressionsWithin?_length hes)]
      rfl

/-- More lines than there are characters make no difference. -/
theorem expressionsWithin?_eq {limit : Nat} {cs : List Char} (h : cs.length ≤ limit) :
    expressionsWithin? limit cs = expressions? cs := by
  cases hread : expressions? cs with
  | some es => exact expressionsWithin?_mono h hread
  | none =>
    rw [Option.eq_none_iff_forall_ne_some]
    intro es hes
    cases (expressionsWithin?_length hes).symm.trans hread

/-- A document is read line by line, as long as there is another line. -/
theorem expressions?_eq (cs : List Char) : expressions? cs =
    if (skipBlanks cs).isEmpty then some []
    else (line? (skipBlanks cs)).bind fun read => (expressions? read.2).map (read.1 ++ ·) := by
  rw [← expressionsWithin?_eq (Nat.le_succ _), expressionsWithin?_succ]
  refine if_congr Iff.rfl rfl ?_
  cases hline : line? (skipBlanks cs) with
  | none => rfl
  | some read =>
    have hlength := (length_lt_of_line? hline).le.trans (leaves_skipBlanks cs).length_le
    rw [Option.bind_some, Option.bind_some, expressionsWithin?_eq hlength]

/-- What is read after a document goes on as what comes next. -/
theorem expressions?_resumes {cs more next : List Char} {es : List Expression}
    (h : expressions? cs = some es) (hnext : Resumes cs more next) :
    expressions? next = (expressions? more).map (es ++ ·) := by
  rw [expressions?_eq] at h
  rcases hnext with rfl | ⟨rfl, rfl⟩
  · rw [expressions?_eq, skipBlanks_feed, if_neg (by simp)]
    split_ifs at h with hempty
    · rw [List.isEmpty_iff.mp hempty, ← Option.some.inj h]
      rfl
    · obtain ⟨⟨es₁, rest⟩, hline, h⟩ := Option.bind_eq_some_iff.mp h
      obtain ⟨es₂, hes, rfl⟩ := Option.map_eq_some_iff.mp h
      obtain ⟨next, hnext, hresumes⟩ := (continues_line _ _ _ hline).2 more
      rw [hnext, Option.bind_some, expressions?_resumes hes hresumes, Option.map_map]
      simp only [Function.comp_def, List.append_assoc]
  · rw [← Option.some.inj h]
    simp
termination_by cs.length
decreasing_by exact (length_lt_of_line? hline).trans_le (leaves_skipBlanks cs).length_le

/-- **The expressions of one document and then those of the other**, if there is a line feed between
the two: a fault further down is a fault of the whole, whatever stands before it. -/
theorem expressions?_feed {cs : List Char} {es : List Expression} (h : expressions? cs = some es)
    (more : List Char) : expressions? (cs ++ '\n' :: more) = (expressions? more).map (es ++ ·) :=
  expressions?_resumes h (Or.inl rfl)

end Syntax

end WmConfig.Toml
