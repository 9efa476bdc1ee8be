import WmConfig.Proofs.Toml.Draft
import WmConfig.Proofs.Toml.Written

/-! # Written drafts

One way to write drafts and statements, given apart from the readers: texts between double quotes,
everything else that is single as a word, arrays and inline tables on one line. What is written so is
read back.

* `statementsOf?_written`: written statements are read as these statements.
* `parse?_written`: a written document is read as its expressions. -/

namespace WmConfig.Toml

/-! ### What is written -/

/-- A text between double quotes, or a value as a word. -/
inductive SingleWritten : Value → List Char → Prop
  | text {s : String} {spelling : List Char} (h : Quoted.Spells s.toList spelling) :
      SingleWritten (.string s) ('\x22' :: (spelling ++ ['\x22']))
  | word {v : Value} {word : List Char} (hword : ∀ c ∈ word, Scalar.isWordChar c = true)
      (h : Scalar.ofWord? word = some v) (hv : ∀ d, v ≠ .datetime d) : SingleWritten v word

section Nested
variable (W : Draft → List Char → Prop)

/-- Items with commas between them, up to the closing bracket. -/
inductive ItemsWritten : List Draft → List Char → Prop
  | nil : ItemsWritten [] [']']
  | one {d : Draft} {cs : List Char} (h : W d cs) : ItemsWritten [d] (cs ++ [']'])
  | cons {d d' : Draft} {ds : List Draft} {cs cs' : List Char} (h : W d cs)
      (hs : ItemsWritten (d' :: ds) cs') :
      ItemsWritten (d :: d' :: ds) (cs ++ ',' :: ' ' :: cs')

/-- Keys with their values and commas between them, up to the closing brace. -/
inductive PairsWritten : List ((List String × String) × Draft) → List Char → Prop
  | one {parents : List String} {key : String} {d : Draft} {cs : List Char}
      (hpath : BarePath parents key) (h : W d cs) : PairsWritten [((parents, key), d)]
        (pathText parents key ++ ' ' :: '=' :: ' ' :: (cs ++ ['\x7d']))
  | cons {parents : List String} {key : String} {d : Draft}
      {lines : List ((List String × String) × Draft)} {cs cs' : List Char}
      (hpath : BarePath parents key) (h : W d cs) (hs : PairsWritten lines cs') :
      PairsWritten (((parents, key), d) :: lines)
        (pathText parents key ++ ' ' :: '=' :: ' ' :: (cs ++ ',' :: ' ' :: cs'))

end Nested

/-- How a draft is written in which arrays and inline tables are nested at most `depth` deep. -/
def Draft.Written : (depth : Nat) → Draft → List Char → Prop
  | _, .single v, cs => SingleWritten v cs
  | 0, _, _ => False
  | depth + 1, .array ds, cs => ∃ cs', cs = '[' :: cs' ∧ ItemsWritten (Draft.Written depth) ds cs'
  | depth + 1, .inline lines, cs =>
    (lines = [] ∧ cs = ['\x7b', '\x7d']) ∨
      ∃ cs', cs = '\x7b' :: cs' ∧ PairsWritten (Draft.Written depth) lines cs'

/-- How a header is written. -/
def Header.text (h : Header) : List Char :=
  if h.isList then '[' :: '[' :: (pathText h.parents h.key ++ [']', ']'])
  else '[' :: (pathText h.parents h.key ++ [']'])

/-- How statements are written: each on a line of its own, empty lines anywhere. -/
inductive StatementsWritten : List Statement → List Char → Prop
  | nil : StatementsWritten [] []
  | emptyLine {ss : List Statement} {cs : List Char} (h : StatementsWritten ss cs) :
      StatementsWritten ss ('\n' :: cs)
  | keyLine {parents : List String} {key : String} {d : Draft} {spelling : List Char}
      {ss : List Statement} {cs : List Char} (hpath : BarePath parents key)
      (hvalue : d.Written Syntax.maxDepth spelling) (h : StatementsWritten ss cs) :
      StatementsWritten (.keyLine parents key d :: ss)
        (pathText parents key ++ ' ' :: '=' :: ' ' :: (spelling ++ '\n' :: cs))
  | header {h : Header} {ss : List Statement} {cs : List Char}
      (hpath : BarePath h.parents h.key) (hs : StatementsWritten ss cs) :
      StatementsWritten (.header h :: ss) (h.text ++ '\n' :: cs)

/-! ### Values -/

/-- What a value starts with is no blank, no comment, no line end and no closing bracket. -/
def Starts (cs : List Char) : Prop :=
  ∃ c rest, cs = c :: rest ∧ c ∉ [' ', '\t', '\n', '#', ']']

theorem Starts.ne_blank {cs : List Char} (h : Starts cs) (rest : List Char) :
    ∀ c, (cs ++ rest).head? = some c → c ≠ ' ' ∧ c ≠ '\t' := by
  obtain ⟨c, cs', rfl, hc⟩ := h
  rintro _ ⟨⟩
  simp only [List.mem_cons, not_or] at hc
  exact ⟨hc.1, hc.2.1⟩

theorem Starts.skipLines_eq_self {cs : List Char} (h : Starts cs) (rest : List Char) :
    Syntax.skipLines false (cs ++ rest) = cs ++ rest := by
  obtain ⟨c, cs', rfl, hc⟩ := h
  simp only [List.mem_cons, not_or] at hc
  exact WmConfig.Toml.skipLines_eq_self ⟨hc.2.2.1, hc.2.2.2.1, hc.1, hc.2.1⟩

/-- What is written is read back as the draft, wherever a value may end. -/
structure ReadBack (draft? : List Char → Option (Draft × List Char)) (d : Draft)
    (cs : List Char) : Prop where
  starts : Starts cs
  ne_return : ∀ c ∈ cs, c ≠ '\r'
  read : ∀ rest, Ends rest → draft? (cs ++ rest) = some (d, rest)

section Nested
variable {W : Draft → List Char → Prop}

theorem ItemsWritten.length_le {ds : List Draft} {cs : List Char} (h : ItemsWritten W ds cs) :
    ds.length ≤ cs.length := by
  induction h with
  | nil => simp
  | one => simp
  | cons _ _ ih =>
    simp only [List.length_cons, List.length_append] at ih ⊢
    omega

theorem PairsWritten.length_le {lines : List ((List String × String) × Draft)} {cs : List Char}
    (h : PairsWritten W lines cs) : lines.length ≤ cs.length := by
  induction h with
  | one =>
    simp only [List.length_cons, List.length_append, List.length_nil]
    omega
  | cons _ _ _ ih =>
    simp only [List.length_cons, List.length_append] at ih ⊢
    omega

theorem PairsWritten.exists_cons {lines : List ((List String × String) × Draft)} {cs : List Char}
    (h : PairsWritten W lines cs) : ∃ c cs', cs = c :: cs' ∧ Syntax.isBare c = true := by
  cases h with
  | one hpath =>
    obtain ⟨c, cs', hcons, hc⟩ := exists_cons_pathText hpath
    exact ⟨c, _, by rw [hcons]; rfl, hc⟩
  | cons hpath =>
    obtain ⟨c, cs', hcons, hc⟩ := exists_cons_pathText hpath
    exact ⟨c, _, by rw [hcons]; rfl, hc⟩

variable {draft? : List Char → Option (Draft × List Char)}
  (hW : ∀ {d cs}, W d cs → ReadBack draft? d cs)
include hW

theorem readItems?_item {d : Draft} {cs rest : List Char} (hd : W d cs) (hends : Ends rest)
    (limit : Nat) : Syntax.readItems? draft? (limit + 1) (cs ++ rest) =
      (Syntax.goesOn? ']' (Syntax.skipLines false rest)).bind fun next =>
        if next.1 then
          (Syntax.readItems? draft? limit next.2).map fun items => (d :: items.1, items.2)
        else some ([d], next.2) := by
  have hstarts := (hW hd).starts
  have hopen : (cs ++ rest).head? ≠ some ']' := by
    obtain ⟨c, cs', rfl, hc⟩ := hstarts
    rintro ⟨⟩
    exact absurd hc (by decide)
  rw [Syntax.readItems?, hstarts.skipLines_eq_self, if_neg hopen, (hW hd).read rest hends]
  rfl

theorem readItems?_written {ds : List Draft} {cs : List Char} (h : ItemsWritten W ds cs)
    (rest : List Char) : ∀ {limit : Nat}, ds.length < limit →
      Syntax.readItems? draft? limit (cs ++ rest) = some (ds, rest) := by
  induction h with
  | nil =>
    intro limit hlimit
    obtain ⟨limit, rfl⟩ := Nat.exists_eq_add_one_of_ne_zero (Nat.ne_zero_of_lt hlimit)
    rfl
  | one hd =>
    intro limit hlimit
    obtain ⟨limit, rfl⟩ := Nat.exists_eq_add_one_of_ne_zero (Nat.ne_zero_of_lt hlimit)
    rw [List.append_assoc, readItems?_item hW hd (by rintro _ ⟨⟩; decide)]
    rfl
  | cons hd _ ih =>
    intro limit hlimit
    obtain ⟨limit, rfl⟩ := Nat.exists_eq_add_one_of_ne_zero (Nat.ne_zero_of_lt hlimit)
    have hblank : ∀ cs, Syntax.readItems? draft? limit (' ' :: cs) =
        Syntax.readItems? draft? limit cs := by
      intro cs
      cases limit <;> rfl
    rw [List.append_assoc, readItems?_item hW hd (by rintro _ ⟨⟩; decide), List.cons_append,
      List.cons_append, WmConfig.Toml.skipLines_eq_self (by decide)]
    simp only [Syntax.goesOn?, Char.reduceEq, if_false, if_true, Option.bind_some, hblank,
      ih (Nat.lt_of_succ_lt_succ hlimit)]
    rfl

theorem readPairs?_pair {parents : List String} {key : String} {d : Draft} {cs rest : List Char}
    (hpath : BarePath parents key) (hd : W d cs) (hends : Ends rest) (limit : Nat) :
    Syntax.readPairs? Prod.mk draft? (limit + 1)
        (pathText parents key ++ ' ' :: '=' :: ' ' :: (cs ++ rest)) =
      (Syntax.goesOn? '\x7d' (Syntax.skipBlanks rest)).bind fun next =>
        if next.1 then (Syntax.readPairs? Prod.mk draft? limit next.2).map fun lines =>
          (((parents, key), d) :: lines.1, lines.2)
        else some ([((parents, key), d)], next.2) := by
  rw [Syntax.readPairs?, assigned?_written hpath ((hW hd).starts.ne_blank rest)]
  simp only [Option.bind_some, (hW hd).read rest hends]

theorem readPairs?_written {lines : List ((List String × String) × Draft)} {cs : List Char}
    (h : PairsWritten W lines cs) (rest : List Char) : ∀ {limit : Nat}, lines.length ≤ limit →
      Syntax.readPairs? Prod.mk draft? limit (cs ++ rest) = some (lines, rest) := by
  induction h with
  | one hpath hd =>
    intro limit hlimit
    obtain ⟨limit, rfl⟩ := Nat.exists_eq_add_one_of_ne_zero (Nat.ne_zero_of_lt hlimit)
    simp only [List.append_assoc, List.cons_append]
    rw [readPairs?_pair hW hpath hd (by rintro _ ⟨⟩; decide)]
    rfl
  | cons hpath hd _ ih =>
    intro limit hlimit
    obtain ⟨limit, rfl⟩ := Nat.exists_eq_add_one_of_ne_zero (Nat.ne_zero_of_lt hlimit)
    have hblank : ∀ cs, Syntax.readPairs? Prod.mk draft? limit (' ' :: cs) =
        Syntax.readPairs? Prod.mk draft? limit cs := by
      intro cs
      cases limit <;> rfl
    simp only [List.append_assoc, List.cons_append]
    rw [readPairs?_pair hW hpath hd (by rintro _ ⟨⟩; decide),
      skipBlanks_eq_self (by rintro _ ⟨⟩; decide)]
    simp only [Syntax.goesOn?, Char.reduceEq, if_false, if_true, Option.bind_some, hblank,
      ih (Nat.le_of_succ_le_succ hlimit)]
    rfl

theorem ItemsWritten.ne_return {ds : List Draft} {cs : List Char} (h : ItemsWritten W ds cs) :
    ∀ c ∈ cs, c ≠ '\r' := by
  induction h with
  | nil => simp
  | one hd =>
    simp only [List.forall_mem_append, List.forall_mem_cons]
    exact ⟨(hW hd).ne_return, by decide, by simp⟩
  | cons hd _ ih =>
    simp only [List.forall_mem_append, List.forall_mem_cons]
    exact ⟨(hW hd).ne_return, by decide, by decide, ih⟩

theorem PairsWritten.ne_return {lines : List ((List String × String) × Draft)} {cs : List Char}
    (h : PairsWritten W lines cs) : ∀ c ∈ cs, c ≠ '\r' := by
  induction h with
  | one hpath hd =>
    simp only [List.forall_mem_append, List.forall_mem_cons]
    exact ⟨ne_return_pathText hpath.1 hpath.2.1, by decide, by decide, by decide,
      (hW hd).ne_return, by decide, by simp⟩
  | cons hpath hd _ ih =>
    simp only [List.forall_mem_append, List.forall_mem_cons]
    exact ⟨ne_return_pathText hpath.1 hpath.2.1, by decide, by decide, by decide,
      (hW hd).ne_return, by decide, by decide, ih⟩

end Nested

theorem SingleWritten.starts {v : Value} {cs : List Char} (h : SingleWritten v cs) :
    ∃ c cs', cs = c :: cs' ∧ (c = '\x22' ∨ Scalar.isWordChar c = true) := by
  cases h with
  | text => exact ⟨_, _, rfl, .inl rfl⟩
  | word hword hv =>
    cases cs with
    | nil => cases hv
    | cons c cs => exact ⟨c, cs, rfl, .inr (hword c List.mem_cons_self)⟩

theorem SingleWritten.readBack {v : Value} {cs : List Char} (h : SingleWritten v cs)
    (depth : Nat) : ReadBack (Syntax.draft? depth) (.single v) cs := by
  obtain ⟨c, cs', hcons, hc⟩ := h.starts
  have hne : ∀ {d}, d ≠ '\x22' → Scalar.isWordChar d = false → c ≠ d := by
    rintro d hquote hword rfl
    rcases hc with rfl | hc
    · exact hquote rfl
    · rw [hword] at hc
      cases hc
  have hopen : ∀ {d}, d ≠ '\x22' → Scalar.isWordChar d = false →
      ∀ depth' rest' rest, depth = depth' + 1 → cs ++ rest = d :: rest' → False := by
    intro d hquote hword depth' rest' rest _ heq
    rw [hcons] at heq
    exact hne hquote hword (List.cons.inj heq).1
  have hread : ∀ rest, Ends rest → Syntax.value? 0 (cs ++ rest) = some (v, rest) := by
    intro rest hrest
    cases h with
    | text h =>
      rw [List.cons_append, List.append_assoc]
      exact value?_string h (fun hquote => (hrest _ hquote).2 rfl) 0
    | word hword hv hdate => exact value?_word hword hv hdate hrest 0
  refine ⟨⟨c, cs', hcons, ?_⟩, ?_, fun rest hrest => ?_⟩
  · simp only [List.mem_cons, List.not_mem_nil, or_false, not_or]
    exact ⟨hne (by decide) rfl, hne (by decide) rfl, hne (by decide) rfl, hne (by decide) rfl,
      hne (by decide) rfl⟩
  · cases h with
    | text h =>
      simp only [List.forall_mem_cons, List.forall_mem_append]
      exact ⟨by decide, h.ne_return, by decide, by simp⟩
    | word hword =>
      rintro c hc rfl
      exact absurd (hword _ hc) (by decide)
  · rw [Syntax.draft?.eq_3 _ _ (hopen (by decide) rfl · · rest) (hopen (by decide) rfl · · rest),
      hread rest hrest]
    rfl

/-- **Written drafts are read back.** -/
theorem Draft.Written.readBack : ∀ {depth : Nat} {d : Draft} {cs : List Char},
    d.Written depth cs → ReadBack (Syntax.draft? depth) d cs
  | depth, .single v, cs, h => by
    rw [Draft.Written.eq_1] at h
    exact h.readBack depth
  | depth + 1, .array ds, _, ⟨cs, rfl, h⟩ => by
    have hlength := h.length_le
    refine ⟨⟨_, _, rfl, by decide⟩, List.forall_mem_cons.mpr ⟨by decide, h.ne_return readBack⟩,
      fun rest _ => ?_⟩
    rw [List.cons_append, Syntax.draft?, readItems?_written readBack h rest (by simp; omega)]
    rfl
  | depth + 1, .inline _, _, .inl ⟨rfl, rfl⟩ => by
    refine ⟨⟨_, _, rfl, by decide⟩, by simp, fun rest _ => ?_⟩
    rfl
  | depth + 1, .inline lines, _, .inr ⟨cs, rfl, h⟩ => by
    have hlength := h.length_le
    obtain ⟨c, cs', hcons, hc⟩ := h.exists_cons
    refine ⟨⟨_, _, rfl, by decide⟩, List.forall_mem_cons.mpr ⟨by decide, h.ne_return readBack⟩,
      fun rest _ => ?_⟩
    have hblank : Syntax.skipBlanks (cs ++ rest) = cs ++ rest := by
      rw [hcons]
      exact skipBlanks_eq_self (by rintro _ ⟨⟩; exact ⟨isBare_ne hc rfl, isBare_ne hc rfl⟩)
    have hopen : (cs ++ rest).head? ≠ some '\x7d' := by
      rw [hcons]
      exact fun heq => isBare_ne hc rfl (Option.some.inj heq)
    rw [List.cons_append, Syntax.draft?, Syntax.draftTable?, hblank, if_neg hopen,
      readPairs?_written readBack h rest (by simp; omega)]
    rfl

/-! ### Statements -/

theorem statementLine?_keyLine {parents : List String} {key : String} {d : Draft}
    {spelling : List Char} (hpath : BarePath parents key)
    (hd : d.Written Syntax.maxDepth spelling) (cs : List Char) :
    Syntax.statementLine? (pathText parents key ++ ' ' :: '=' :: ' ' :: (spelling ++ '\n' :: cs)) =
      some ([.keyLine parents key d], cs) := by
  have hread : Syntax.keyStatement?
      (pathText parents key ++ ' ' :: '=' :: ' ' :: (spelling ++ '\n' :: cs)) =
        some (.keyLine parents key d, cs) := by
    simp only [Syntax.keyStatement?, assigned?_written hpath (hd.readBack.starts.ne_blank _),
      Option.bind_some, hd.readBack.read _ (ends_newline cs)]
    rfl
  obtain ⟨c, cs', hcons, hc⟩ := exists_cons_pathText hpath
  have hne : ∀ {d rest}, Syntax.isBare d = false →
      pathText parents key ++ ' ' :: '=' :: ' ' :: (spelling ++ '\n' :: cs) = d :: rest → False := by
    intro d rest hd heq
    rw [hcons] at heq
    exact absurd (List.cons.inj heq).1 (isBare_ne hc hd)
  rw [Syntax.statementLine?.eq_4 _ (fun _ => hne rfl) (fun _ => hne rfl) (fun _ => hne rfl), hread]
  rfl

theorem statementLine?_header {h : Header} (hpath : BarePath h.parents h.key) (cs : List Char) :
    Syntax.statementLine? (h.text ++ '\n' :: cs) = some ([.header h], cs) := by
  obtain ⟨parents, key, isList⟩ := h
  have hread := header?_written hpath cs
  cases isList with
  | false =>
    rw [Header.text, if_neg (by simp), List.cons_append, List.append_assoc, Syntax.statementLine?]
    simp only [List.cons_append, List.nil_append, hread.1, Option.map_some]
  | true =>
    rw [Header.text, if_pos rfl, List.cons_append, List.cons_append, List.append_assoc,
      Syntax.statementLine?]
    simp only [List.cons_append, List.nil_append, hread.2, Option.map_some]

/-- One line with statements, and the statements on the lines after it. -/
theorem statementsWithin?_line {cs rest : List Char} {first ss : List Statement} {limit : Nat}
    (hblank : ∀ c, cs.head? = some c → c ≠ ' ' ∧ c ≠ '\t') (hne : cs ≠ [])
    (hread : Syntax.statementLine? cs = some (first, rest))
    (hrest : Syntax.statementsWithin? limit rest = some ss) :
    Syntax.statementsWithin? (limit + 1) cs = some (first ++ ss) := by
  rw [Syntax.statementsWithin?, skipBlanks_eq_self hblank, if_neg (by simpa using hne), hread,
    Option.bind_some, hrest]
  rfl

theorem statementsWithin?_written {ss : List Statement} {cs : List Char}
    (h : StatementsWritten ss cs) : ∀ {limit : Nat}, cs.length ≤ limit →
      Syntax.statementsWithin? limit cs = some ss := by
  induction h with
  | nil =>
    intro limit _
    cases limit <;> rfl
  | @emptyLine ss cs _ ih =>
    intro limit hlimit
    obtain ⟨limit, rfl⟩ := Nat.exists_eq_add_one_of_ne_zero (Nat.ne_zero_of_lt hlimit)
    have hempty : Syntax.statementLine? ('\n' :: cs) = some ([], cs) := rfl
    exact statementsWithin?_line (by rintro _ ⟨⟩; decide) (by simp) hempty
      (ih (Nat.le_of_succ_le_succ hlimit))
  | @keyLine parents key d spelling ss cs hpath hd _ ih =>
    intro limit hlimit
    simp only [List.length_append, List.length_cons] at hlimit
    obtain ⟨limit, rfl⟩ := Nat.exists_eq_add_one_of_ne_zero (show limit ≠ 0 by omega)
    obtain ⟨c, cs', hcons, hc⟩ := exists_cons_pathText hpath
    refine statementsWithin?_line ?_ (by simp) (statementLine?_keyLine hpath hd cs)
      (ih (by omega))
    rw [hcons]
    rintro _ ⟨⟩
    exact ⟨isBare_ne hc rfl, isBare_ne hc rfl⟩
  | @header h ss cs hpath _ ih =>
    intro limit hlimit
    simp only [List.length_append, List.length_cons] at hlimit
    obtain ⟨limit, rfl⟩ := Nat.exists_eq_add_one_of_ne_zero (show limit ≠ 0 by omega)
    refine statementsWithin?_line ?_ (by simp) (statementLine?_header hpath cs) (ih (by omega))
    rw [Header.text]
    split_ifs <;> (rintro _ ⟨⟩; decide)

theorem StatementsWritten.ne_return {ss : List Statement} {cs : List Char}
    (h : StatementsWritten ss cs) : ∀ c ∈ cs, c ≠ '\r' := by
  induction h with
  | nil => simp
  | emptyLine _ ih => exact List.forall_mem_cons.mpr ⟨by decide, ih⟩
  | keyLine hpath hd _ ih =>
    simp only [List.forall_mem_cons, List.forall_mem_append]
    exact ⟨ne_return_pathText hpath.1 hpath.2.1, by decide, by decide, by decide,
      hd.readBack.ne_return, by decide, ih⟩
  | @header h _ _ hpath _ ih =>
    have hpath' := ne_return_pathText hpath.1 hpath.2.1
    have htext : ∀ c ∈ h.text, c ≠ '\r' := by
      unfold Header.text
      split_ifs <;> simp only [List.forall_mem_cons, List.forall_mem_append]
      · exact ⟨by decide, by decide, hpath', by decide, by decide, by simp⟩
      · exact ⟨by decide, hpath', by decide, by simp⟩
    simp only [List.forall_mem_cons, List.forall_mem_append]
    exact ⟨htext, by decide, ih⟩

/-- Written statements do not start with a byte order mark. -/
theorem StatementsWritten.head?_ne {ss : List Statement} {cs : List Char}
    (h : StatementsWritten ss cs) : cs.head? ≠ some '\ufeff' := by
  cases h with
  | nil => exact nofun
  | emptyLine => exact fun heq => absurd (Option.some.inj heq) (by decide)
  | keyLine hpath =>
    obtain ⟨c, cs', hcons, hc⟩ := exists_cons_pathText hpath
    rw [hcons]
    exact fun heq => isBare_ne hc (by decide) (Option.some.inj heq)
  | header =>
    rw [Header.text]
    split_ifs <;> exact fun heq => absurd (Option.some.inj heq) (by decide)

/-- **Written statements are read back.** -/
theorem statementsOf?_written {ss : List Statement} {text : String}
    (h : StatementsWritten ss text.toList) : statementsOf? text = some ss := by
  rw [statementsOf?, skipMark_eq_self h.head?_ne, joinLineEnds_eq_self h.ne_return]
  exact statementsWithin?_written h (Nat.le_refl _)

/-! ### Written documents -/

/-- A written value is a draft that is put together as the value. -/
theorem Value.Written.exists_draft {v : Value} {cs : List Char} (h : v.Written cs) (depth : Nat) :
    ∃ d : Draft, d.Written (depth + 1) cs ∧ d.value? = some v := by
  have hword : ∀ {v word}, (∀ c ∈ word, Scalar.isWordChar c = true) →
      Scalar.ofWord? word = some v → (∀ d, v ≠ .datetime d) →
        ∃ d : Draft, d.Written (depth + 1) word ∧ d.value? = some v :=
    fun hchars hv hdate => ⟨.single _, .word hchars hv hdate, rfl⟩
  have htexts : ∀ {ss cs}, TextsWritten ss cs →
      ItemsWritten (Draft.Written depth) (ss.map fun s => .single (.string s)) cs ∧
        Draft.values? (ss.map fun s => .single (.string s)) = some (ss.map .string) := by
    intro ss cs h
    have htext : ∀ {s : String} {spelling}, Quoted.Spells s.toList spelling →
        Draft.Written depth (.single (.string s)) ('\x22' :: (spelling ++ ['\x22'])) := by
      intro s spelling h
      rw [Draft.Written.eq_1]
      exact .text h
    induction h with
    | nil => exact ⟨.nil, rfl⟩
    | one h =>
      have hitem := ItemsWritten.one (htext h)
      rw [List.cons_append, List.append_assoc] at hitem
      exact ⟨hitem, rfl⟩
    | cons h _ ih =>
      have hitem := ItemsWritten.cons (htext h) ih.1
      rw [List.cons_append, List.append_assoc] at hitem
      refine ⟨hitem, ?_⟩
      rw [List.map_cons, Draft.values?, ih.2]
      rfl
  cases h with
  | string h => exact ⟨.single _, .text h, rfl⟩
  | natural hn =>
    exact hword (fun c hc => isWordChar_of_isDigit (isDigit_toDigits hc))
      (Scalar.ofWord?_toDigits hn) (by simp)
  | boolean b => exact hword (isWordChar_boolean b) (Scalar.ofWord?_boolean b) (by simp)
  | float hchars hv => exact hword hchars hv (by simp)
  | texts h =>
    obtain ⟨hitems, hvalues⟩ := htexts h
    exact ⟨.array _, ⟨_, rfl, hitems⟩, by rw [Draft.value?, hvalues]; rfl⟩

/-- A written document is written by statements that are put together as its expressions. -/
theorem Written.exists_statements {es : List Expression} {cs : List Char} (h : Written es cs) :
    ∃ ss, StatementsWritten ss cs ∧ Statement.expressions? ss = some es := by
  have hheader : ∀ {h : Header} {es : List Expression} {cs : List Char},
      BarePath h.parents h.key →
        (∃ ss, StatementsWritten ss cs ∧ Statement.expressions? ss = some es) →
          ∃ ss, StatementsWritten ss (h.text ++ '\n' :: cs) ∧
            Statement.expressions? ss = some (.header h :: es) := by
    rintro h es cs hpath ⟨ss, hss, hes⟩
    refine ⟨_, .header hpath hss, ?_⟩
    rw [Statement.expressions?, hes]
    rfl
  induction h with
  | nil => exact ⟨[], .nil, rfl⟩
  | emptyLine _ ih =>
    obtain ⟨ss, hss, hes⟩ := ih
    exact ⟨ss, .emptyLine hss, hes⟩
  | keyLine hpath hvalue _ ih =>
    obtain ⟨ss, hss, hes⟩ := ih
    obtain ⟨d, hd, hv⟩ := hvalue.exists_draft 78
    refine ⟨_, .keyLine hpath hd hss, ?_⟩
    rw [Statement.expressions?, hes, Statement.expression?, hv]
    rfl
  | @table parents key _ _ hpath _ ih =>
    have hwritten := @hheader ⟨parents, key, false⟩ _ _ hpath ih
    rwa [Header.text, if_neg (by simp), List.cons_append, List.append_assoc] at hwritten
  | @listTable parents key _ _ hpath _ ih =>
    have hwritten := @hheader ⟨parents, key, true⟩ _ _ hpath ih
    rwa [Header.text, if_pos rfl, List.cons_append, List.cons_append, List.append_assoc] at hwritten

/-- **A written document is read as its expressions.** -/
theorem parse?_written {es : List Expression} {text : String} (h : Written es text.toList) :
    parse? text = assemble? es := by
  obtain ⟨ss, hss, hes⟩ := h.exists_statements
  rw [parse?_eq, expressionsOf?_eq_bind, statementsOf?_written hss, Option.bind_some, hes]
  rfl

/-! ### What can be written -/

/-- The statement has a spelling. -/
def Statement.Writable : Statement → Prop
  | .keyLine parents key d => BarePath parents key ∧ ∃ cs, d.Written Syntax.maxDepth cs
  | .header h => BarePath h.parents h.key

theorem exists_statementsWritten : ∀ {ss : List Statement}, (∀ s ∈ ss, s.Writable) →
    ∃ cs, StatementsWritten ss cs
  | [], _ => ⟨[], .nil⟩
  | .keyLine _ _ _ :: ss, h => by
    obtain ⟨⟨hpath, spelling, hd⟩, hss⟩ := List.forall_mem_cons.mp h
    obtain ⟨cs, hcs⟩ := exists_statementsWritten hss
    exact ⟨_, .keyLine hpath hd hcs⟩
  | .header _ :: ss, h => by
    obtain ⟨hpath, hss⟩ := List.forall_mem_cons.mp h
    obtain ⟨cs, hcs⟩ := exists_statementsWritten hss
    exact ⟨_, .header hpath hcs⟩

theorem exists_itemsWritten {W : Draft → List Char → Prop} : ∀ {ds : List Draft},
    (∀ d ∈ ds, ∃ cs, W d cs) → ∃ cs, ItemsWritten W ds cs
  | [], _ => ⟨_, .nil⟩
  | [d], h => by
    obtain ⟨cs, hd⟩ := h d List.mem_cons_self
    exact ⟨_, .one hd⟩
  | d :: d' :: ds, h => by
    obtain ⟨⟨cs, hd⟩, hds⟩ := List.forall_mem_cons.mp h
    obtain ⟨cs', hcs'⟩ := exists_itemsWritten hds
    exact ⟨_, .cons hd hcs'⟩

theorem exists_pairsWritten {W : Draft → List Char → Prop} :
    ∀ {lines : List ((List String × String) × Draft)}, lines ≠ [] →
      (∀ l ∈ lines, BarePath l.1.1 l.1.2 ∧ ∃ cs, W l.2 cs) → ∃ cs, PairsWritten W lines cs
  | [], hne, _ => absurd rfl hne
  | [((parents, key), d)], _, h => by
    obtain ⟨hpath, cs, hd⟩ := h _ List.mem_cons_self
    exact ⟨_, .one hpath hd⟩
  | ((parents, key), d) :: l :: lines, _, h => by
    obtain ⟨⟨hpath, cs, hd⟩, hlines⟩ := List.forall_mem_cons.mp h
    obtain ⟨cs', hcs'⟩ := exists_pairsWritten (List.cons_ne_nil l lines) hlines
    exact ⟨_, .cons hpath hd hcs'⟩

/-- Every whole number of 64 bits can be written. -/
theorem exists_integerWritten (n : Int64) : ∃ cs, SingleWritten (.integer n.toInt) cs := by
  have hdigits : ∀ m : Nat, ∀ c ∈ Nat.toDigits 10 m, Scalar.isWordChar c = true :=
    fun m c hc => isWordChar_of_isDigit (isDigit_toDigits hc)
  have hlt := n.toInt_lt
  have hle := n.le_toInt
  rcases Int.le_total 0 n.toInt with hpos | hneg
  · obtain ⟨m, hm⟩ := Int.eq_ofNat_of_zero_le hpos
    rw [hm] at hlt ⊢
    exact ⟨_, .word (hdigits m) (Scalar.ofWord?_toDigits (by omega)) (by simp)⟩
  · obtain ⟨m, hm⟩ := Int.exists_eq_neg_ofNat hneg
    rw [hm] at hle ⊢
    exact ⟨_, .word (List.forall_mem_cons.mpr ⟨by decide, hdigits m⟩)
      (Scalar.ofWord?_minus (by omega)) (by simp)⟩

end WmConfig.Toml
