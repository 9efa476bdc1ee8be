import WmConfig.Pattern.Syntax

/-! # Plain expressions

Plain expressions are made of characters, the dot, the anchors of the text, rows, alternatives and
repetitions. `Plain.Matches` says which pieces of a text such an expression describes, and
`Plain.Spells` how it may be written: alternatives bind weakest, then rows, then repetitions, and a
group may stand around any expression. Every plain expression can be written
(`Plain.spells_form`). -/

namespace WmConfig.Pattern

/-- A plain expression. -/
inductive Plain where
  /-- The empty piece. -/
  | empty
  /-- A character. -/
  | char (c : Char)
  /-- Any character but a line feed. -/
  | any
  /-- The start of the text. -/
  | start
  /-- The end of the text. -/
  | finish
  /-- One piece after the other. -/
  | concat (e f : Plain)
  /-- Either piece. -/
  | either (e f : Plain)
  /-- Any number of pieces in a row. -/
  | star (e : Plain)
  /-- One or more pieces in a row. -/
  | plus (e : Plain)
  /-- A piece or nothing. -/
  | optional (e : Plain)

namespace Plain

/-- Whether a piece of a text is described, given the text before it and the text after it. -/
inductive Matches : Plain → List Char → List Char → List Char → Prop
  | empty {before after} : Matches .empty before [] after
  | char {c before after} : Matches (.char c) before [c] after
  | any {c before after} (h : c ≠ '\n') : Matches .any before [c] after
  | start {after} : Matches .start [] [] after
  | finish {before} : Matches .finish before [] []
  | concat {e f before first second after} (hfirst : Matches e before first (second ++ after))
      (hsecond : Matches f (before ++ first) second after) :
      Matches (.concat e f) before (first ++ second) after
  | left {e f before piece after} (h : Matches e before piece after) :
      Matches (.either e f) before piece after
  | right {e f before piece after} (h : Matches f before piece after) :
      Matches (.either e f) before piece after
  | starNil {e before after} : Matches (.star e) before [] after
  | starCons {e before first rest after} (hfirst : Matches e before first (rest ++ after))
      (hrest : Matches (.star e) (before ++ first) rest after) :
      Matches (.star e) before (first ++ rest) after
  | plus {e before first rest after} (hfirst : Matches e before first (rest ++ after))
      (hrest : Matches (.star e) (before ++ first) rest after) :
      Matches (.plus e) before (first ++ rest) after
  | absent {e before after} : Matches (.optional e) before [] after
  | present {e before piece after} (h : Matches e before piece after) :
      Matches (.optional e) before piece after

/-- Whether some piece of the text is described. -/
def FoundIn (e : Plain) (text : String) : Prop :=
  ∃ before piece after, text.toList = before ++ piece ++ after ∧ e.Matches before piece after

/-! ### Written forms -/

/-- The characters that mean something else than themselves. -/
def signs : List Char := ['(', ')', '|', '[', '?', '*', '+', '\x7b', '\\', '.', '^', '$']

/-- How tightly the parts of a written form hold together. -/
inductive Binding where
  /-- Alternatives. -/
  | choice
  /-- Pieces in a row. -/
  | row
  /-- A repetition. -/
  | repetition
  /-- A single sign or a group. -/
  | atom

/-- A group that is not kept track of. -/
def group (cs : List Char) : List Char := '(' :: '?' :: ':' :: cs ++ [')']

/-- The texts that an expression may be written as, by how tightly their parts hold together. A
repetition may be repeated again, but a question mark after it would not make it optional. -/
inductive Spells : Binding → Plain → List Char → Prop
  | char {c} (h : c ∉ signs) : Spells .atom (.char c) [c]
  | escaped {c} (h : Escape.isLiteral c = true) : Spells .atom (.char c) ['\\', c]
  | any : Spells .atom .any ['.']
  | start : Spells .atom .start ['^']
  | finish : Spells .atom .finish ['$']
  | group {e cs} (h : Spells .choice e cs) : Spells .atom e (group cs)
  | atom {e cs} (h : Spells .atom e cs) : Spells .repetition e cs
  | star {e cs} (h : Spells .repetition e cs) : Spells .repetition (.star e) (cs ++ ['*'])
  | plus {e cs} (h : Spells .repetition e cs) : Spells .repetition (.plus e) (cs ++ ['+'])
  | optional {e cs} (h : Spells .atom e cs) : Spells .repetition (.optional e) (cs ++ ['?'])
  | repetition {e cs} (h : Spells .repetition e cs) : Spells .row e cs
  | empty : Spells .row .empty []
  | concat {e f cs ds} (he : Spells .row e cs) (hf : Spells .row f ds) :
      Spells .row (.concat e f) (cs ++ ds)
  | row {e cs} (h : Spells .row e cs) : Spells .choice e cs
  | either {e f cs ds} (he : Spells .choice e cs) (hf : Spells .choice f ds) :
      Spells .choice (.either e f) (cs ++ '|' :: ds)

theorem Spells.ne_nil {b : Binding} {e : Plain} {cs : List Char} (h : Spells b e cs)
    (hb : b = .atom ∨ b = .repetition) : cs ≠ [] := by
  induction h with
  | atom _ ih => exact ih (Or.inl rfl)
  | repetition | empty | concat | row | either => rcases hb with hb | hb <;> cases hb
  | _ => simp [Plain.group]

/-- No written form starts with a question mark. -/
theorem Spells.head?_ne {b : Binding} {e : Plain} {cs : List Char} (h : Spells b e cs) :
    cs.head? ≠ some '?' := by
  have happend : ∀ {cs ds : List Char}, cs ≠ [] → cs.head? ≠ some '?' →
      (cs ++ ds).head? ≠ some '?' := by
    intro cs ds hne hcs
    obtain ⟨c, cs, rfl⟩ := List.exists_cons_of_ne_nil hne
    exact hcs
  induction h with
  | @char c h =>
    intro heq
    obtain rfl := Option.some.inj heq
    exact h (by decide)
  | escaped | any | start | finish | group | empty => simp [Plain.group]
  | atom _ ih | repetition _ ih | row _ ih => exact ih
  | star h ih | plus h ih => exact happend (h.ne_nil (Or.inr rfl)) ih
  | optional h ih => exact happend (h.ne_nil (Or.inl rfl)) ih
  | @concat _ _ cs _ _ _ ihe ihf =>
    cases cs with
    | nil => exact ihf
    | cons c cs => exact ihe
  | @either _ _ cs _ _ _ ih =>
    cases cs with
    | nil => simp
    | cons c cs => exact ih

/-! ### A written form for each expression -/

/-- The place of a binding, the weakest one first. -/
def Binding.strength : Binding → Nat
  | choice => 0
  | row => 1
  | repetition => 2
  | atom => 3

/-- How tightly the parts of the expression hold together. -/
def binding : Plain → Binding
  | char _ | any | start | finish => .atom
  | star _ | plus _ | optional _ => .repetition
  | empty | concat _ _ => .row
  | either _ _ => .choice

/-- Puts a group around a form whose parts do not hold together as tightly as wanted. -/
def enclose (wanted own : Binding) (cs : List Char) : List Char :=
  if wanted.strength ≤ own.strength then cs else group cs

/-- The written form with groups only where they are needed. -/
def form : Plain → List Char
  | empty => []
  | char c => if c ∈ signs then ['\\', c] else [c]
  | any => ['.']
  | start => ['^']
  | finish => ['$']
  | concat e f => enclose .row e.binding e.form ++ enclose .row f.binding f.form
  | either e f => e.form ++ '|' :: f.form
  | star e => enclose .repetition e.binding e.form ++ ['*']
  | plus e => enclose .repetition e.binding e.form ++ ['+']
  | optional e => enclose .atom e.binding e.form ++ ['?']

theorem Spells.weaken {b b' : Binding} {e : Plain} {cs : List Char} (h : Spells b e cs)
    (hb : b'.strength ≤ b.strength) : Spells b' e cs := by
  cases b <;> cases b' <;> first | exact h | exact absurd hb (by decide) | skip
  · exact h.row
  · exact h.repetition.row
  · exact h.repetition
  · exact h.atom.repetition.row
  · exact h.atom.repetition
  · exact h.atom

theorem Spells.enclose {b : Binding} {e : Plain} {cs : List Char} (h : Spells b e cs)
    (wanted : Binding) : Spells wanted e (enclose wanted b cs) := by
  unfold Plain.enclose
  split
  · exact h.weaken ‹_›
  · have hchoice : Spells .choice e cs := h.weaken (Nat.zero_le _)
    exact hchoice.group.weaken (by cases wanted <;> decide)

/-- Every plain expression can be written. -/
theorem spells_form (e : Plain) : Spells e.binding e e.form := by
  induction e with
  | empty => exact .empty
  | char c =>
    unfold form
    split
    · have hliteral : signs.all Escape.isLiteral = true := by rfl
      exact .escaped (List.all_eq_true.mp hliteral c ‹_›)
    · exact .char ‹_›
  | any => exact .any
  | start => exact .start
  | finish => exact .finish
  | concat e f ihe ihf => exact .concat (ihe.enclose .row) (ihf.enclose .row)
  | either e f ihe ihf =>
    exact .either (ihe.weaken (Nat.zero_le _)) (ihf.weaken (Nat.zero_le _))
  | star e ih => exact .star (ih.enclose .repetition)
  | plus e ih => exact .plus (ih.enclose .repetition)
  | optional e ih => exact .optional (ih.enclose .atom)

end Plain

end WmConfig.Pattern
