import WmConfig.Proofs.Toml.Texts

/-! # Texts that go on

What is read of a text does not change when the text goes on after a line feed, or further on with a
quote. Each reader takes text characters and line feeds off the front of a text, and reads the same
in a longer one (`Extends`, and `Continues` for a line feed); so do readers that are put together
from such readers (`Extends.map`, `Extends.bind`). Here it is shown for quoted texts
(`Quoted.extends_read`) and for words (`Scalar.extends_read`). -/

namespace WmConfig.Toml

/-! ### Rests and longer texts -/

/-- A character that a document may hold: any text character, or a line feed. -/
def isWritten (c : Char) : Bool := Quoted.isText c || c == '\n'

/-- What is left of a text once some characters of a document are taken off its front. -/
def Leaves (cs rest : List Char) : Prop :=
  ∃ used, cs = used ++ rest ∧ ∀ c ∈ used, isWritten c = true

namespace Leaves

variable {cs cs' rest : List Char}

theorem refl (cs : List Char) : Leaves cs cs := ⟨[], rfl, by simp⟩

theorem trans (h : Leaves cs cs') (h' : Leaves cs' rest) : Leaves cs rest := by
  obtain ⟨used, rfl, hused⟩ := h
  obtain ⟨used', rfl, hused'⟩ := h'
  exact ⟨used ++ used', by simp, List.forall_mem_append.mpr ⟨hused, hused'⟩⟩

theorem length_le (h : Leaves cs rest) : rest.length ≤ cs.length := by
  obtain ⟨used, rfl, -⟩ := h
  simp

theorem cons {c : Char} (hc : isWritten c = true) (h : Leaves cs rest) : Leaves (c :: cs) rest := by
  obtain ⟨used, rfl, hused⟩ := h
  exact ⟨c :: used, rfl, List.forall_mem_cons.mpr ⟨hc, hused⟩⟩

theorem eq_nil (h : Leaves [] rest) : rest = [] := List.eq_nil_of_length_eq_zero
  (Nat.le_zero.mp h.length_le)

theorem append {used : List Char} (hused : ∀ c ∈ used, isWritten c = true) (h : Leaves cs rest) :
    Leaves (used ++ cs) rest := by
  induction used with
  | nil => exact h
  | cons c used ih =>
    obtain ⟨hc, hused⟩ := List.forall_mem_cons.mp hused
    exact cons hc (ih hused)

theorem dropWhile {p : Char → Bool} (hp : ∀ c, p c = true → isWritten c = true)
    (cs : List Char) : Leaves cs (cs.dropWhile p) :=
  ⟨cs.takeWhile p, List.takeWhile_append_dropWhile.symm,
    fun c hc => hp c (List.all_eq_true.mp List.all_takeWhile c hc)⟩

end Leaves

/-- **The reader goes on.** What it takes are characters of a document, and if the text goes on
after the rest, with a line feed first, the second reader reads the same in it. -/
def Continues {α : Type} (read? read'? : List Char → Option (α × List Char)) : Prop :=
  ∀ cs a rest, read? cs = some (a, rest) → Leaves cs rest ∧
    ∀ more, read'? (cs ++ '\n' :: more) = some (a, rest ++ '\n' :: more)

/-- A text with which no word goes on: it starts with a line feed or a quote. -/
def Stops (cs : List Char) : Prop := ∃ c more, cs = c :: more ∧ c ∈ ['\n', '\x22', '\'']

/-- A text may go on with a line feed, and further on also with a quote. -/
def MayFollow (rest cs : List Char) : Prop :=
  Stops cs ∧ (rest = [] → cs.head? = some '\n')

/-- The reader goes on, if the text goes on after the rest with something that is fit for it. -/
def Extends {α : Type} (Fit : List Char → List Char → Prop)
    (read? read'? : List Char → Option (α × List Char)) : Prop :=
  ∀ cs a rest, read? cs = some (a, rest) → Leaves cs rest ∧
    ∀ more, Fit rest more → read'? (cs ++ more) = some (a, rest ++ more)

theorem stops_feed (more : List Char) : Stops ('\n' :: more) := ⟨'\n', more, rfl, by decide⟩

theorem mayFollow_feed (rest more : List Char) : MayFollow rest ('\n' :: more) :=
  ⟨stops_feed more, fun _ => rfl⟩

/-- What may follow what is left in the end may follow what was left before. -/
theorem MayFollow.of_leaves {cs rest more : List Char} (h : MayFollow rest more)
    (hleaves : Leaves cs rest) : MayFollow cs more := by
  refine ⟨h.1, ?_⟩
  rintro rfl
  exact h.2 hleaves.eq_nil

namespace Extends

section Combine
variable {α β : Type} {Fit : List Char → List Char → Prop}
  {read? read'? : List Char → Option (α × List Char)}

theorem continues (h : Extends MayFollow read? read'?) : Continues read? read'? :=
  fun cs a rest hread =>
    ⟨(h cs a rest hread).1, fun more => (h cs a rest hread).2 _ (mayFollow_feed rest more)⟩

theorem mayFollow (h : Extends (fun _ => Stops) read? read'?) : Extends MayFollow read? read'? :=
  fun cs a rest hread => ⟨(h cs a rest hread).1, fun _ hmore => (h cs a rest hread).2 _ hmore.1⟩

theorem pure (a : α) : Extends Fit (fun cs => some (a, cs)) fun cs => some (a, cs) := by
  rintro cs _ _ ⟨⟩
  exact ⟨.refl cs, fun _ _ => rfl⟩

theorem map (h : Extends Fit read? read'?) (f : α → β) :
    Extends Fit (fun cs => (read? cs).map fun read => (f read.1, read.2))
      fun cs => (read'? cs).map fun read => (f read.1, read.2) := by
  intro cs b rest hb
  obtain ⟨⟨a, rest⟩, ha, heq⟩ := Option.map_eq_some_iff.mp hb
  obtain ⟨rfl, rfl⟩ := Prod.mk.inj heq
  obtain ⟨hleaves, hread⟩ := h cs a rest ha
  exact ⟨hleaves, fun more hmore => Option.map_eq_some_iff.mpr ⟨_, hread more hmore, rfl⟩⟩

/-- **One reader after another** goes on in a longer text if both do. -/
theorem bind (h : Extends MayFollow read? read'?)
    {next next' : α → List Char → Option (β × List Char)}
    (hnext : ∀ a, Extends MayFollow (next a) (next' a)) :
    Extends MayFollow (fun cs => (read? cs).bind fun read => next read.1 read.2)
      fun cs => (read'? cs).bind fun read => next' read.1 read.2 := by
  intro cs b rest hb
  obtain ⟨⟨a, mid⟩, ha, hb⟩ := Option.bind_eq_some_iff.mp hb
  obtain ⟨hleaves, hread⟩ := h cs a mid ha
  obtain ⟨hleaves', hread'⟩ := hnext a mid b rest hb
  exact ⟨hleaves.trans hleaves', fun more hmore => Option.bind_eq_some_iff.mpr
    ⟨_, hread more (hmore.of_leaves hleaves'), hread' more hmore⟩⟩

end Combine

end Extends

section Splits
variable {p : Char → Bool} {more : List Char} (hmore : ∀ c, more.head? = some c → p c = false)
include hmore

theorem takeWhile_append_stop (cs : List Char) : (cs ++ more).takeWhile p = cs.takeWhile p := by
  have hnil : more.takeWhile p = [] := by
    cases more with
    | nil => rfl
    | cons c more => exact List.takeWhile_cons_of_neg (by simp [hmore c rfl])
  rw [List.takeWhile_append, hnil, List.append_nil]
  split_ifs with hlength
  · exact ((List.takeWhile_prefix p).eq_of_length hlength).symm
  · rfl

theorem dropWhile_append_stop (cs : List Char) :
    (cs ++ more).dropWhile p = cs.dropWhile p ++ more := by
  have hself : more.dropWhile p = more := by
    cases more with
    | nil => rfl
    | cons c more => exact List.dropWhile_cons_of_neg (by simp [hmore c rfl])
  rw [List.dropWhile_append, hself]
  split_ifs with hempty
  · rw [List.isEmpty_iff.mp hempty, List.nil_append]
  · rfl

end Splits

theorem Stops.head? {p : Char → Bool} {more : List Char} (h : Stops more)
    (hp : ['\n', '\x22', '\''].any p = false) : ∀ c, more.head? = some c → p c = false := by
  obtain ⟨c, more, rfl, hc⟩ := h
  rintro _ ⟨⟩
  exact Bool.eq_false_iff.mpr (List.any_eq_false.mp hp c hc)

theorem dropWhile_feed {p : Char → Bool} (hp : p '\n' = false) (cs more : List Char) :
    (cs ++ '\n' :: more).dropWhile p = cs.dropWhile p ++ '\n' :: more :=
  dropWhile_append_stop (by rintro c ⟨⟩; exact hp) cs

/-- A character with which the text does not go on stood there before. -/
theorem exists_cons_of_append {c : Char} {cs more rest : List Char} (hmore : more.head? ≠ some c)
    (h : cs ++ more = c :: rest) : ∃ rest', cs = c :: rest' ∧ rest = rest' ++ more := by
  cases cs with
  | nil => exact absurd (congrArg List.head? h) hmore
  | cons c' cs =>
    obtain ⟨rfl, hrest⟩ := List.cons.inj h
    exact ⟨cs, rfl, hrest.symm⟩

theorem Stops.head?_ne {more : List Char} (h : Stops more) {c : Char}
    (hc : c ∉ ['\n', '\x22', '\'']) : more.head? ≠ some c := by
  obtain ⟨c', more, rfl, hc'⟩ := h
  rintro ⟨⟩
  exact hc hc'

theorem exists_cons_of_feed {c : Char} (hc : c ≠ '\n') {cs more rest : List Char}
    (h : cs ++ '\n' :: more = c :: rest) : ∃ rest', cs = c :: rest' ∧ rest = rest' ++ '\n' :: more :=
  exists_cons_of_append (fun hhead => hc (Option.some.inj hhead).symm) h

/-! ### Quoted texts -/

namespace Quoted

theorem isWritten_of_isText {c : Char} (h : isText c = true) : isWritten c = true := by
  rw [isWritten, h, Bool.true_or]

theorem isWritten_of_le {lo hi c : Char} (hlo : ' ' ≤ lo) (hhi : hi < '\x7f') (h : lo ≤ c ∧ c ≤ hi) :
    isWritten c = true := by
  have hspace : ' ' ≤ c := Char.le_trans hlo h.1
  have hdelete : c ≠ '\x7f' := by
    rintro rfl
    exact absurd h.2 (Char.not_le.mpr hhi)
  refine isWritten_of_isText ?_
  simp [isText, hspace, hdelete]

theorem isWritten_of_isAlphanum {c : Char} (h : c.isAlphanum = true) : isWritten c = true := by
  change (decide ('A' ≤ c ∧ c ≤ 'Z') || ('a' ≤ c && c ≤ 'z') || ('0' ≤ c && c ≤ '9')) = true at h
  simp only [Bool.or_eq_true, Bool.and_eq_true, decide_eq_true_eq] at h
  rcases h with (h | h) | h
  · exact @isWritten_of_le 'A' 'Z' c (by decide) (by decide) h
  · exact @isWritten_of_le 'a' 'z' c (by decide) (by decide) h
  · exact @isWritten_of_le '0' '9' c (by decide) (by decide) h

theorem isWritten_of_digit? {c : Char} {n : Nat} (h : Numeral.digit? c = some n) :
    isWritten c = true := by
  rw [Numeral.digit?] at h
  split_ifs at h with h₁ h₂ h₃
  · exact isWritten_of_le (by decide) (by decide) h₁
  · exact isWritten_of_le (by decide) (by decide) h₂
  · exact isWritten_of_le (by decide) (by decide) h₃

theorem isWritten_of_scalar? {digits : List Char} {c : Char} (h : scalar? digits = some c) :
    ∀ d ∈ digits, isWritten d = true := by
  obtain ⟨n, hn, -⟩ := Option.map_eq_some_iff.mp h
  intro d hd
  have hdigit := isSome_digitOf?_of_value? (Option.filter_eq_some_iff.mp hn).1 d hd
  obtain ⟨k, hk⟩ := Option.isSome_iff_exists.mp hdigit
  exact isWritten_of_digit? (Option.filter_eq_some_iff.mp hk).1

theorem isWritten_of_isSwallowed {c : Char} (h : isSwallowed c = true) : isWritten c = true := by
  simp only [isSwallowed, Bool.or_eq_true, beq_iff_eq] at h
  rcases h with (rfl | rfl) | rfl <;> decide

theorem Escape.isWritten {c : Char} {esc : List Char} (h : Escape c esc) :
    ∀ d ∈ esc, isWritten d = true := by
  cases h with
  | letter he =>
    have hletters : ∀ p ∈ escapes, Toml.isWritten p.1 = true := by decide
    exact List.forall_mem_cons.mpr ⟨by decide, List.forall_mem_singleton.mpr (hletters _ he)⟩
  | four h | eight h =>
    exact List.forall_mem_cons.mpr ⟨by decide, List.forall_mem_cons.mpr
      ⟨by decide, isWritten_of_scalar? (scalar?_eq_some h)⟩⟩

theorem Spells.isWritten {text spelling : List Char} (h : Spells text spelling) :
    ∀ c ∈ spelling, isWritten c = true := by
  induction h with
  | nil => simp
  | plain htext _ _ _ ih => exact List.forall_mem_cons.mpr ⟨isWritten_of_isText htext, ih⟩
  | letter he _ ih => exact List.forall_mem_append.mpr ⟨(Escape.letter he).isWritten, ih⟩
  | four hc _ ih => exact List.forall_mem_append.mpr ⟨(Escape.four hc).isWritten, ih⟩
  | eight hc _ ih => exact List.forall_mem_append.mpr ⟨(Escape.eight hc).isWritten, ih⟩

theorem SpellsLines.isWritten {quote : Char} {stop text spelling : List Char}
    (h : SpellsLines quote stop text spelling) (hstop : ∀ c ∈ stop, isWritten c = true) :
    ∀ c ∈ spelling, isWritten c = true := by
  induction h with
  | nil => exact hstop
  | plain htext _ _ _ ih => exact List.forall_mem_cons.mpr ⟨htext, ih⟩
  | escape _ he _ ih => exact List.forall_mem_append.mpr ⟨he.isWritten, ih⟩
  | lineEnd _ hwhite _ _ _ ih =>
    exact List.forall_mem_cons.mpr ⟨by decide, List.forall_mem_append.mpr
      ⟨fun c hc => isWritten_of_isSwallowed (hwhite c hc), ih⟩⟩

theorem isWritten_of_dropLineEnd {cs : List Char} (h : ∀ c ∈ dropLineEnd cs, isWritten c = true) :
    ∀ c ∈ cs, isWritten c = true := by
  rw [dropLineEnd.eq_def] at h
  split at h
  · exact List.forall_mem_cons.mpr ⟨by decide, h⟩
  · exact h

theorem Spelling.isWritten {text lit : List Char} (h : Spelling text lit) :
    ∀ c ∈ lit, isWritten c = true := by
  cases h with
  | basic h =>
    exact List.forall_mem_cons.mpr ⟨by decide, List.forall_mem_append.mpr
      ⟨h.isWritten, List.forall_mem_singleton.mpr (by decide)⟩⟩
  | literal h =>
    refine List.forall_mem_cons.mpr ⟨by decide, List.forall_mem_append.mpr
      ⟨fun c hc => ?_, List.forall_mem_singleton.mpr (by decide)⟩⟩
    exact isWritten_of_isText (Bool.and_eq_true _ _ ▸ h c hc).1
  | @lines quote _ _ _ hquote _ h =>
    have hrow : ∀ n, ∀ c ∈ List.replicate n quote, Toml.isWritten c = true := by
      intro n c hc
      rw [List.eq_of_mem_replicate hc]
      rcases hquote with rfl | rfl <;> decide
    exact List.forall_mem_append.mpr ⟨hrow 3, isWritten_of_dropLineEnd (h.isWritten (hrow _))⟩

theorem extends_basic : Extends (fun _ _ => True) basic? basic? := by
  intro cs text rest h
  obtain ⟨spelling, rfl, hspells⟩ := exists_spells_of_basic? h
  refine ⟨.append hspells.isWritten (.cons (by decide) (.refl _)), fun more _ => ?_⟩
  rw [List.append_assoc]
  exact basic?_spells hspells (rest ++ more)

theorem extends_literal : Extends (fun _ _ => True) literal? literal? := by
  intro cs text rest h
  obtain ⟨rfl, htext⟩ := literal?_eq_some_iff.mp h
  refine ⟨.append (fun c hc => ?_) (.cons (by decide) (.refl _)), fun more _ => ?_⟩
  · exact isWritten_of_isText (Bool.and_eq_true _ _ ▸ htext c hc).1
  · exact literal?_eq_some_iff.mpr ⟨by simp, htext⟩

theorem extends_read : Extends MayFollow read? read? := by
  intro cs text rest h
  obtain ⟨lit, rfl, hspelling, hread⟩ := exists_spelling h
  refine ⟨.append hspelling.isWritten (.refl _), fun more hmore => ?_⟩
  rw [List.append_assoc]
  refine hread _ ?_
  cases rest with
  | nil =>
    obtain ⟨more, rfl⟩ := List.head?_eq_some_iff.mp (hmore.2 rfl)
    refine .inr ?_
    rintro c ⟨⟩
    decide
  | cons c rest => exact .inl rfl

end Quoted

/-! ### Words -/

theorem isWritten_of_isWordChar {c : Char} (h : Scalar.isWordChar c = true) :
    isWritten c = true := by
  simp only [Scalar.isWordChar, Bool.or_eq_true, beq_iff_eq] at h
  rcases h with ((((h | rfl) | rfl) | rfl) | rfl) | rfl
  · exact Quoted.isWritten_of_isAlphanum h
  all_goals decide

namespace Scalar

/-- The word at the front of a text is a day, and a blank and a digit follow it. -/
def IsTimed (cs : List Char) : Prop :=
  isDay (cs.takeWhile isWordChar) = true ∧
    ∃ c rest, cs.dropWhile isWordChar = ' ' :: c :: rest ∧ c.isDigit = true

theorem read?_timed {cs rest : List Char} {c : Char}
    (hday : isDay (cs.takeWhile isWordChar) = true)
    (hrest : cs.dropWhile isWordChar = ' ' :: c :: rest) (hc : c.isDigit = true) :
    read? cs = (Datetime.whole? .value
      (cs.takeWhile isWordChar ++ ' ' :: c :: rest.takeWhile isWordChar)).map fun d =>
        (.datetime d, rest.dropWhile isWordChar) := by
  simp only [read?, hday, hrest, hc, if_true]

theorem read?_untimed {cs : List Char} (h : ¬ IsTimed cs) :
    read? cs = (ofWord? (cs.takeWhile isWordChar)).map (·, cs.dropWhile isWordChar) := by
  simp only [read?]
  split
  · next c rest hday hrest =>
    rw [if_neg fun hc => h ⟨hday, c, rest, hrest, hc⟩, hrest]
  · rfl

theorem extends_read : Extends (fun _ => Stops) read? read? := by
  intro cs v rest h
  have hleaves := Leaves.dropWhile (fun _ => isWritten_of_isWordChar) cs
  have hstop : ∀ {more}, Stops more → ∀ c, more.head? = some c → isWordChar c = false :=
    fun hmore => hmore.head? (by decide)
  by_cases htimed : IsTimed cs
  · obtain ⟨hday, c, rest', hrest, hc⟩ := htimed
    rw [read?_timed hday hrest hc] at h
    obtain ⟨d, hd, hv⟩ := Option.map_eq_some_iff.mp h
    obtain ⟨rfl, rfl⟩ := Prod.mk.inj hv
    rw [hrest] at hleaves
    have hdigit : isWritten c = true :=
      Quoted.isWritten_of_isAlphanum (by rw [Char.isAlphanum, hc, Bool.or_true])
    refine ⟨hleaves.trans (.cons (by decide) (.cons hdigit
      (.dropWhile (fun _ => isWritten_of_isWordChar) rest'))), fun more hmore => ?_⟩
    have htake := takeWhile_append_stop (hstop hmore)
    have hrest' : (cs ++ more).dropWhile isWordChar = ' ' :: c :: (rest' ++ more) := by
      rw [dropWhile_append_stop (hstop hmore), hrest]
      rfl
    rw [read?_timed (by rw [htake, hday]) hrest' hc, htake, htake,
      dropWhile_append_stop (hstop hmore), hd]
    rfl
  · have htimed' : ∀ {more}, Stops more → ¬ IsTimed (cs ++ more) := by
      rintro more hmore ⟨hday, c, rest', hrest, hc⟩
      rw [takeWhile_append_stop (hstop hmore)] at hday
      rw [dropWhile_append_stop (hstop hmore)] at hrest
      -- A digit after the blank stood there before.
      have hstops : ∀ c ∈ ['\n', '\x22', '\''], ¬ c.isDigit = true := by simp
      have hdigit : c ∉ ['\n', '\x22', '\''] := fun hmem => hstops c hmem hc
      obtain ⟨cs₁, hcs₁, hnext⟩ := exists_cons_of_append (hmore.head?_ne (by decide)) hrest
      obtain ⟨cs₂, rfl, -⟩ := exists_cons_of_append (hmore.head?_ne hdigit) hnext.symm
      exact htimed ⟨hday, c, cs₂, hcs₁, hc⟩
    rw [read?_untimed htimed] at h
    obtain ⟨w, hw, hv⟩ := Option.map_eq_some_iff.mp h
    obtain ⟨rfl, rfl⟩ := Prod.mk.inj hv
    refine ⟨hleaves, fun more hmore => ?_⟩
    rw [read?_untimed (htimed' hmore), takeWhile_append_stop (hstop hmore),
      dropWhile_append_stop (hstop hmore), hw]
    rfl

end Scalar

end WmConfig.Toml
