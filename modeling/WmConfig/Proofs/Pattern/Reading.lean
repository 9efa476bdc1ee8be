import WmConfig.Pattern.Basic
import WmConfig.Proofs.Pattern.Pieces
import WmConfig.Proofs.Pattern.Plain

/-! # Reading plain expressions

What is written as a plain expression is read as an expression that matches the same pieces
(`read?_spells`). The proof follows the written form: reading an atom or a repetition adds one piece
to the row, reading a row adds pieces, and reading alternatives leaves a group that stands for the
alternatives before and the new ones. -/

namespace WmConfig

/-! ### Rows and alternatives -/

namespace Regex

theorem pieces_concats : (rs : List Regex) → (concats rs).pieces = (rs.map pieces).prod
  | [] => rfl
  | [r] => (mul_one r.pieces).symm
  | r :: s :: rs => by
    rw [List.map_cons, List.prod_cons, ← pieces_concats (s :: rs)]
    rfl

theorem pieces_eithers_iff (r : Regex) (rs : List Regex) {before piece after : List Char} :
    (eithers r rs).pieces before piece after ↔ ∃ s ∈ r :: rs, s.pieces before piece after := by
  induction rs generalizing r with
  | nil => simp [eithers]
  | cons s rs ih =>
    have hunion : (eithers r (s :: rs)).pieces before piece after ↔
        r.pieces before piece after ∨ (eithers s rs).pieces before piece after := Iff.rfl
    rw [hunion, ih]
    simp

end Regex

namespace Pattern

/-! ### Plain expressions as sets of pieces -/

namespace Plain

/-- The pieces that a plain expression describes. -/
abbrev pieces (e : Plain) : Pieces := e.Matches

theorem pieces_empty : empty.pieces = 1 := by
  ext before piece after
  constructor
  · rintro ⟨⟩
    rfl
  · rintro rfl
    exact .empty

theorem pieces_concat (e f : Plain) : (concat e f).pieces = e.pieces * f.pieces := by
  ext before piece after
  constructor
  · rintro ⟨⟩
    exact ⟨_, _, rfl, ‹_›, ‹_›⟩
  · rintro ⟨first, second, rfl, hfirst, hsecond⟩
    exact .concat hfirst hsecond

theorem pieces_either (e f : Plain) : (either e f).pieces = e.pieces ∪ f.pieces := by
  ext before piece after
  constructor
  · rintro (⟨h⟩ | ⟨h⟩)
    · exact Or.inl ‹_›
    · exact Or.inr ‹_›
  · rintro (h | h)
    · exact .left h
    · exact .right h

theorem pieces_star (e : Plain) : (star e).pieces = e.pieces.star := by
  ext before piece after
  constructor
  · intro h
    generalize hstar : star e = s at h
    induction h with
    | starNil => exact ⟨0, rfl⟩
    | starCons hfirst _ _ ih =>
      obtain rfl := Plain.star.inj hstar
      obtain ⟨n, hrest⟩ := ih hstar
      refine ⟨n + 1, ?_⟩
      rw [pow_succ', Pieces.mul_iff]
      exact ⟨_, _, rfl, hfirst, hrest⟩
    | _ => cases hstar
  · rintro ⟨n, h⟩
    induction n generalizing before piece with
    | zero =>
      obtain rfl := h
      exact .starNil
    | succ n ih =>
      rw [pow_succ', Pieces.mul_iff] at h
      obtain ⟨first, rest, rfl, hfirst, hrest⟩ := h
      exact .starCons hfirst (ih _ _ hrest)

theorem pieces_plus (e : Plain) : (plus e).pieces = e.pieces * e.pieces.star := by
  rw [← pieces_star]
  ext before piece after
  constructor
  · rintro ⟨⟩
    exact ⟨_, _, rfl, ‹_›, ‹_›⟩
  · rintro ⟨first, rest, rfl, hfirst, hrest⟩
    exact .plus hfirst hrest

theorem pieces_optional (e : Plain) : (optional e).pieces = e.pieces ∪ 1 := by
  ext before piece after
  constructor
  · rintro (_ | ⟨h⟩)
    · exact Or.inr rfl
    · exact Or.inl ‹_›
  · rintro (h | rfl)
    · exact .present h
    · exact .absent

end Plain

namespace Syntax

/-! ### Groups -/

theorem pieces_row (ps : List Piece) :
    (row ps).regex.pieces = ((ps.filterMap Piece.regex?).map Regex.pieces).prod :=
  Regex.pieces_concats _

theorem pieces_row_append (ps qs : List Piece) :
    (row (ps ++ qs)).regex.pieces = (row ps).regex.pieces * (row qs).regex.pieces := by
  simp only [pieces_row, List.filterMap_append, List.map_append, List.prod_append]

theorem pieces_row_node (n : Node) : (row [.node n]).regex.pieces = n.regex.pieces := rfl

/-- What a group stands for: one of the alternatives before, or its current row. -/
def Group.alternatives (g : Group) : Pieces := fun before piece after =>
  (∃ n ∈ g.before, n.regex.pieces before piece after) ∨
    (row g.pieces.reverse).regex.pieces before piece after

theorem Group.pieces_close (g : Group) : g.close.regex.pieces = g.alternatives := by
  ext before piece after
  have hmem : (∃ n ∈ (row g.pieces.reverse :: g.before).reverse,
      n.regex.pieces before piece after) ↔ g.alternatives before piece after := by
    simp only [List.mem_reverse, List.exists_mem_cons_iff]
    exact or_comm
  rw [← hmem]
  unfold Group.close
  cases hnodes : (row g.pieces.reverse :: g.before).reverse with
  | nil => exact absurd (List.reverse_eq_nil_iff.mp hnodes) (List.cons_ne_nil _ _)
  | cons first rest =>
    rw [Regex.pieces_eithers_iff]
    simp

/-! ### Steps -/

/-- Whether the text may follow: after a repetition a question mark would belong to it. -/
def MayFollow : Plain.Binding → List Char → Prop
  | .atom, _ => True
  | _, rest => rest.head? ≠ some '?'

/-- The characters take the reader from one state to another, one step for each of them at most,
whatever may follow. -/
def Reads (b : Plain.Binding) (st : State) (cs : List Char) (st' : State) : Prop :=
  ∃ steps ≤ cs.length, ∀ limit rest, MayFollow b rest →
    readWithin? (limit + steps) st (cs ++ rest) = readWithin? limit st' rest

variable {b b' : Plain.Binding} {st st' st'' : State} {c : Char} {cs ds : List Char}

theorem Reads.nil (st : State) : Reads b st [] st := ⟨0, le_rfl, fun _ _ _ => rfl⟩

theorem Reads.append (h : Reads b st cs st') (h' : Reads b' st' ds st'')
    (hfollow : ∀ rest, MayFollow b' rest → MayFollow b (ds ++ rest)) :
    Reads b' st (cs ++ ds) st'' := by
  obtain ⟨m, hm, h⟩ := h
  obtain ⟨n, hn, h'⟩ := h'
  refine ⟨n + m, by rw [List.length_append]; omega, fun limit rest hrest => ?_⟩
  rw [List.append_assoc, ← Nat.add_assoc, h _ _ (hfollow rest hrest), h' _ _ hrest]

theorem Reads.step (hflags : st.flags = {})
    (h : ∀ rest, MayFollow b rest → step? st c (ds ++ rest) = some (st', rest)) :
    Reads b st (c :: ds) st' := by
  refine ⟨1, by simp, fun limit rest hrest => ?_⟩
  rw [List.cons_append, readWithin?, hflags]
  change (step? st c (ds ++ rest)).bind _ = _
  rw [h rest hrest]
  rfl

theorem mayFollow_append {rest : List Char} (hds : ds.head? ≠ some '?')
    (hrest : rest.head? ≠ some '?') : (ds ++ rest).head? ≠ some '?' := by
  cases ds with
  | nil => exact hrest
  | cons d ds => exact hds

theorem mayFollow_cons (hc : c ≠ '?') (rest : List Char) : MayFollow b (c :: rest) := by
  cases b <;> simp [MayFollow, hc]

/-! ### Atoms -/

/-- The state with another piece. -/
abbrev State.push (st : State) (n : Node) : State := { st with current := st.current.add (.node n) }

theorem addAtom_char (hflags : st.flags = {}) (c : Char) :
    addAtom st (.char c) = st.push ⟨.set (.ofChar c), 0⟩ := by
  change st.push ⟨.set (st.flags.character c), 0⟩ = _
  rw [hflags]
  rfl

theorem step?_char (hflags : st.flags = {}) (hc : c ∉ Plain.signs) (rest : List Char) :
    step? st c rest = some (st.push ⟨.set (.ofChar c), 0⟩, rest) := by
  rw [← addAtom_char hflags]
  unfold step?
  split <;> first | exact absurd (by decide) hc | rfl

theorem read?_literal (f : Flags) (hc : Escape.isLiteral c = true) (rest : List Char) :
    Escape.read? f (c :: rest) = some (.char c, rest) := by
  have hne : ∀ d, Escape.isLiteral d = false → c ≠ d := by
    rintro d hd rfl
    rw [hd] at hc
    cases hc
  unfold Escape.read?
  split <;> first | exact absurd (List.cons.inj ‹_›).1 (hne _ (by decide)) | skip
  · simp at *
  · rename_i heq
    obtain ⟨rfl, rfl⟩ := List.cons.inj heq
    rw [if_pos hc]

theorem step?_escaped (hflags : st.flags = {}) (hc : Escape.isLiteral c = true)
    (rest : List Char) :
    step? st '\\' (c :: rest) = some (st.push ⟨.set (.ofChar c), 0⟩, rest) := by
  rw [← addAtom_char hflags]
  change (Escape.read? st.flags (c :: rest)).map _ = _
  rw [read?_literal _ hc]
  rfl

theorem pieces_char (c : Char) : (Regex.set (.ofChar c)).pieces = (Plain.char c).pieces := by
  ext before piece after
  constructor
  · rintro ⟨d, rfl, hd⟩
    obtain rfl : d = c := by simpa using hd
    exact .char
  · rintro ⟨⟩
    exact ⟨c, rfl, by simp⟩

theorem pieces_any :
    (Regex.set (CharSet.ofChar '\n').complement).pieces = Plain.any.pieces := by
  ext before piece after
  constructor
  · rintro ⟨c, rfl, hc⟩
    exact .any (by simpa using hc)
  · rintro ⟨⟩
    exact ⟨_, rfl, by simpa⟩

theorem pieces_start : (Regex.look .textStart).pieces = Plain.start.pieces := by
  ext before piece after
  constructor
  · rintro ⟨rfl, hstart⟩
    obtain rfl : before = [] := by simpa [Look.holds] using hstart
    exact .start
  · rintro ⟨⟩
    exact ⟨rfl, rfl⟩

theorem pieces_finish : (Regex.look .textEnd).pieces = Plain.finish.pieces := by
  ext before piece after
  constructor
  · rintro ⟨rfl, hfinish⟩
    obtain rfl : after = [] := by simpa [Look.holds] using hfinish
    exact .finish
  · rintro ⟨⟩
    exact ⟨rfl, rfl⟩

/-! ### Written forms -/

/-- The characters are read as the plain expression, by how tightly their parts hold together. -/
def ReadAs (cs : List Char) (e : Plain) : Plain.Binding → Prop
  | .choice => ∀ st : State, st.flags = {} → st.current.pieces = [] → ∃ g : Group,
      Reads .choice st cs { st with current := g } ∧ g.flags = {} ∧
        ∀ before piece after, g.alternatives before piece after ↔
          (∃ n ∈ st.current.before, n.regex.pieces before piece after) ∨ e.pieces before piece after
  | .row => ∀ st : State, st.flags = {} → ∃ ps : List Piece,
      Reads .row st cs
        { st with current := { st.current with pieces := ps.reverse ++ st.current.pieces } } ∧
        (row ps).regex.pieces = e.pieces
  | b => ∀ st : State, st.flags = {} →
      ∃ n, Reads b st cs (st.push n) ∧ n.regex.pieces = e.pieces

variable {e f : Plain}

/-- A sign adds an expression without parts. -/
theorem ReadAs.sign {r : Regex} (hr : r.pieces = e.pieces) (h : ∀ st : State, st.flags = {} →
    ∀ rest, step? st c (cs ++ rest) = some (st.push ⟨r, 0⟩, rest)) :
    ReadAs (c :: cs) e .atom := fun st hflags =>
  ⟨⟨r, 0⟩, .step hflags fun rest _ => h st hflags rest, hr⟩

theorem group?_plain (hflags : st.flags = {}) (rest : List Char) :
    group? st ('?' :: ':' :: rest) = some (st.openGroup false st.flags, rest) := by
  have hskip : st.flags.skip ('?' :: ':' :: rest) = '?' :: ':' :: rest := by
    rw [hflags]
    rfl
  unfold group?
  rw [hskip]
  rfl

theorem ReadAs.group (h : ReadAs cs e .choice) : ReadAs (Plain.group cs) e .atom := by
  intro st hflags
  obtain ⟨g, hreads, hg, halternatives⟩ := h (st.openGroup false st.flags) hflags rfl
  have hopen : Reads .atom st ['(', '?', ':'] (st.openGroup false st.flags) :=
    .step hflags fun rest _ => group?_plain hflags rest
  have hclose : Reads .atom { st.openGroup false st.flags with current := g } [')']
      (st.push ⟨g.close.regex, g.close.height + 1⟩) := .step hg fun rest _ => rfl
  refine ⟨⟨g.close.regex, g.close.height + 1⟩, ?_, ?_⟩
  · exact hopen.append (hreads.append hclose fun rest _ => mayFollow_cons (by decide) rest)
      fun _ _ => trivial
  · rw [Group.pieces_close]
    ext before piece after
    rw [halternatives]
    simp [State.openGroup]

theorem ReadAs.repetition (h : ReadAs cs e .atom) : ReadAs cs e .repetition := by
  intro st hflags
  obtain ⟨n, ⟨steps, hsteps, hreads⟩, hn⟩ := h st hflags
  exact ⟨n, ⟨steps, hsteps, fun limit rest _ => hreads limit rest trivial⟩, hn⟩

/-- A sign for a repetition repeats the last piece. -/
theorem ReadAs.repeated {min : ℕ} {max : Option ℕ} {sign : Char}
    (h : ∀ st : State, st.flags = {} →
      ∃ n, Reads b st cs (st.push n) ∧ n.regex.pieces = e.pieces)
    (hsign : ∀ rest, MayFollow b (sign :: rest))
    (hstep : ∀ (st : State) rest,
      step? st sign rest = (st.repeat? min max).map (·, skipLazy rest))
    (hpieces : ∀ r : Regex, r.pieces = e.pieces → (Regex.times r min max).pieces = f.pieces) :
    ReadAs (cs ++ [sign]) f .repetition := by
  intro st hflags
  obtain ⟨n, hreads, hn⟩ := h st hflags
  have hrepeat : Reads .repetition (st.push n) [sign]
      (st.push ⟨.times n.regex min max, n.height + 1⟩) := by
    refine .step hflags fun rest hrest => ?_
    have hlazy : skipLazy rest = rest := by
      unfold skipLazy
      split
      · exact absurd rfl hrest
      · rfl
    rw [List.nil_append, hstep, hlazy]
    rfl
  exact ⟨_, hreads.append hrepeat fun rest _ => hsign rest, hpieces _ hn⟩

theorem ReadAs.row_of_repetition (h : ReadAs cs e .repetition) : ReadAs cs e .row := by
  intro st hflags
  obtain ⟨n, hreads, hn⟩ := h st hflags
  exact ⟨[.node n], hreads, (pieces_row_node n).trans hn⟩

theorem ReadAs.empty : ReadAs [] .empty .row := fun st _ =>
  ⟨[], .nil st, Plain.pieces_empty.symm⟩

theorem ReadAs.concat (he : ReadAs cs e .row) (hf : ReadAs ds f .row)
    (hds : ds.head? ≠ some '?') : ReadAs (cs ++ ds) (.concat e f) .row := by
  intro st hflags
  obtain ⟨ps, hreads, hps⟩ := he st hflags
  obtain ⟨qs, hreads', hqs⟩ := hf { st with current :=
    { st.current with pieces := ps.reverse ++ st.current.pieces } } hflags
  refine ⟨ps ++ qs, ?_, ?_⟩
  · have happend := hreads.append hreads' fun rest => mayFollow_append hds
    rwa [← List.append_assoc, ← List.reverse_append] at happend
  · rw [pieces_row_append, hps, hqs, Plain.pieces_concat]

theorem ReadAs.choice_of_row (h : ReadAs cs e .row) : ReadAs cs e .choice := by
  intro st hflags hnil
  obtain ⟨ps, hreads, hps⟩ := h st hflags
  refine ⟨_, hreads, hflags, fun before piece after => ?_⟩
  rw [← hps]
  simp [Group.alternatives, hnil]

theorem ReadAs.either (he : ReadAs cs e .choice) (hf : ReadAs ds f .choice) :
    ReadAs (cs ++ '|' :: ds) (.either e f) .choice := by
  intro st hflags hnil
  obtain ⟨g, hreads, hg, hbefore⟩ := he st hflags hnil
  obtain ⟨g', hreads', hg', hboth⟩ := hf { st with current := g.alternate } hg rfl
  have hbar : Reads .atom { st with current := g } ['|'] { st with current := g.alternate } :=
    .step hg fun rest _ => rfl
  refine ⟨g', hreads.append (hbar.append hreads' fun _ _ => trivial) fun rest _ =>
    mayFollow_cons (by decide) _, hg', fun before piece after => ?_⟩
  have halternate : (∃ n ∈ g.alternate.before, n.regex.pieces before piece after) ↔
      g.alternatives before piece after := by
    simp only [Group.alternate, List.exists_mem_cons_iff]
    exact or_comm
  rw [hboth, halternate, hbefore, or_assoc, Plain.pieces_either]
  rfl

/-- **What is written as a plain expression is read as one.** -/
theorem readAs_of_spells (h : Plain.Spells b e cs) : ReadAs cs e b := by
  induction h with
  | char hc => exact .sign (pieces_char _) fun st hflags rest => step?_char hflags hc rest
  | escaped hc => exact .sign (pieces_char _) fun st hflags rest => step?_escaped hflags hc rest
  | any =>
    refine .sign pieces_any fun st hflags rest => ?_
    change (st.flags.dot?.map fun s => (st.push ⟨.set s, 0⟩, rest)) = _
    rw [hflags]
    rfl
  | start =>
    refine .sign pieces_start fun st hflags rest => ?_
    change some (st.push ⟨.look st.flags.startLook, 0⟩, rest) = _
    rw [hflags]
    rfl
  | finish =>
    refine .sign pieces_finish fun st hflags rest => ?_
    change some (st.push ⟨.look st.flags.endLook, 0⟩, rest) = _
    rw [hflags]
    rfl
  | group _ ih => exact ih.group
  | atom _ ih => exact ih.repetition
  | star _ ih =>
    refine .repeated ih (fun rest => mayFollow_cons (by decide) rest) (fun _ _ => rfl)
      fun r hr => ?_
    rw [Plain.pieces_star, ← hr]
    exact one_mul _
  | plus _ ih =>
    refine .repeated ih (fun rest => mayFollow_cons (by decide) rest) (fun _ _ => rfl)
      fun r hr => ?_
    rw [Plain.pieces_plus, ← hr]
    exact congrArg (· * r.pieces.star) (pow_one r.pieces)
  | optional _ ih =>
    refine .repeated ih (fun rest => trivial) (fun _ _ => rfl) fun r hr => ?_
    rw [Plain.pieces_optional, ← hr]
    exact (one_mul _).trans (pow_one _)
  | repetition _ ih => exact ih.row_of_repetition
  | empty => exact .empty
  | concat _ hf ihe ihf => exact ihe.concat ihf hf.head?_ne
  | row _ ih => exact ih.choice_of_row
  | either _ _ ihe ihf => exact ihe.either ihf

/-- A text that spells a plain expression is well formed and stands for the same pieces. -/
theorem read?_spells (h : Plain.Spells .choice e cs) :
    ∃ n, read? cs = some n ∧ n.regex.pieces = e.pieces := by
  obtain ⟨g, ⟨steps, hsteps, hreads⟩, hg, halternatives⟩ := readAs_of_spells h {} rfl rfl
  obtain ⟨limit, hlimit⟩ := Nat.exists_eq_add_of_le hsteps
  have hend : readWithin? (limit + 1) { current := g } [] = some g.close := by
    rw [readWithin?, show State.flags { current := g } = {} from hg]
    rfl
  refine ⟨g.close, ?_, ?_⟩
  · have hread := hreads (limit + 1) [] (by simp [MayFollow])
    rw [List.append_nil, show limit + 1 + steps = cs.length + 1 by omega] at hread
    exact hread.trans hend
  · rw [Group.pieces_close]
    ext before piece after
    rw [halternatives]
    simp

end Syntax

end Pattern

end WmConfig
