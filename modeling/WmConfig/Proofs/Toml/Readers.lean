import WmConfig.Toml.Document
import Mathlib.Tactic.SplitIfs

/-! # The readers step by step

What the readers of a document do, as one step after another: an array or an inline table is read
value by value (`items?_succ`, `pairs?_succ`), by readers that work for values of any kind
(`readItems?`, `readPairs?`), and a document line by line (`expressionsWithin?_succ`). -/

namespace WmConfig.Toml.Syntax

/-! ### Several values -/

/-- Whether an item comes after a comma or the closing character is reached, and the text after. -/
def goesOn? (close : Char) : List Char → Option (Bool × List Char)
  | [] => none
  | c :: cs => if c = close then some (false, cs) else if c = ',' then some (true, cs) else none

theorem exists_cons_of_goesOn? {close : Char} {cs rest : List Char} {more : Bool}
    (h : goesOn? close cs = some (more, rest)) : ∃ c, cs = c :: rest ∧ (c = close ∨ c = ',') ∧
      ∀ rest', goesOn? close (c :: rest') = some (more, rest') := by
  cases cs with
  | nil => cases h
  | cons c cs =>
    rw [goesOn?] at h
    split_ifs at h with hclose hcomma
    · obtain ⟨rfl, rfl⟩ := Prod.mk.inj (Option.some.inj h)
      exact ⟨c, rfl, .inl hclose, fun rest' => if_pos hclose⟩
    · obtain ⟨rfl, rfl⟩ := Prod.mk.inj (Option.some.inj h)
      exact ⟨c, rfl, .inr hcomma, fun rest' => (if_neg hclose).trans (if_pos hcomma)⟩

theorem head?_ne {c : Char} {cs : List Char} (h : ∀ rest, cs = c :: rest → False) :
    cs.head? ≠ some c := by
  cases cs with
  | nil => exact nofun
  | cons c' cs => exact fun heq => h cs (by rw [Option.some.inj heq])

theorem goesOn?_eq_none {close : Char} {cs : List Char} (hclose : ∀ rest, cs = close :: rest → False)
    (hcomma : ∀ rest, cs = ',' :: rest → False) : goesOn? close cs = none := by
  cases cs with
  | nil => rfl
  | cons c cs =>
    rw [goesOn?, if_neg fun heq => hclose cs (by rw [heq]), if_neg fun heq => hcomma cs (by rw [heq])]

/-- The values up to the closing bracket, at most `limit` readings long. -/
def readItems? {α : Type} (read? : List Char → Option (α × List Char)) :
    (limit : Nat) → List Char → Option (List α × List Char)
  | 0, _ => none
  | limit + 1, cs =>
    if (skipLines false cs).head? = some ']' then some ([], (skipLines false cs).tail)
    else (read? (skipLines false cs)).bind fun (a, rest) =>
      (goesOn? ']' (skipLines false rest)).bind fun (more, rest) =>
        if more then (readItems? read? limit rest).map fun (as, rest) => (a :: as, rest)
        else some ([a], rest)

/-- The keys with their values up to the closing brace, at most `limit` of them. -/
def readPairs? {α γ : Type} (line : List String × String → α → γ)
    (read? : List Char → Option (α × List Char)) :
    (limit : Nat) → List Char → Option (List γ × List Char)
  | 0, _ => none
  | limit + 1, cs =>
    (assigned? cs).bind fun (path, rest) => (read? rest).bind fun (a, rest) =>
      (goesOn? '\x7d' (skipBlanks rest)).bind fun (more, rest) =>
        if more then (readPairs? line read? limit rest).map fun (ls, rest) =>
          (line path a :: ls, rest)
        else some ([line path a], rest)

section Cases
variable (item? : List Char → Option (Value × List Char)) (limit : Nat) (cs : List Char)

theorem items?_succ : items? item? (limit + 1) cs =
    if (skipLines false cs).head? = some ']' then some ([], (skipLines false cs).tail)
    else (item? (skipLines false cs)).bind fun read =>
      (goesOn? ']' (skipLines false read.2)).bind fun next =>
        if next.1 then (items? item? limit next.2).map fun items => (read.1 :: items.1, items.2)
        else some ([read.1], next.2) := by
  rw [items?]
  split
  · next heq =>
    rw [heq]
    rfl
  · next hopen =>
    rw [if_neg (head?_ne hopen)]
    refine congrArg (Option.bind _) (funext fun read => ?_)
    dsimp only
    split
    · next heq =>
      rw [heq]
      rfl
    · next rest heq =>
      rw [heq]
      cases hrest : items? item? limit rest <;> simp [goesOn?, hrest]
    · next hclose hcomma => rw [goesOn?_eq_none hclose hcomma, Option.bind_none]

theorem pairs?_succ : pairs? item? (limit + 1) cs =
    (assigned? cs).bind fun path => (item? path.2).bind fun read =>
      (goesOn? '\x7d' (skipBlanks read.2)).bind fun next =>
        if next.1 then (pairs? item? limit next.2).map fun lines =>
          (⟨path.1.1, path.1.2, read.1⟩ :: lines.1, lines.2)
        else some ([⟨path.1.1, path.1.2, read.1⟩], next.2) := by
  rw [pairs?]
  refine congrArg (Option.bind _) (funext fun path => ?_)
  refine congrArg (Option.bind _) (funext fun read => ?_)
  dsimp only
  split
  · next heq =>
    rw [heq]
    rfl
  · next rest heq =>
    rw [heq]
    cases hrest : pairs? item? limit rest <;> simp [goesOn?, hrest]
  · next hclose hcomma => rw [goesOn?_eq_none hclose hcomma, Option.bind_none]

theorem inlineTable?_eq : inlineTable? item? cs =
    if (skipBlanks cs).head? = some '\x7d' then some (.table [], (skipBlanks cs).tail)
    else (pairs? item? (skipBlanks cs).length (skipBlanks cs)).bind fun read =>
      (Entries.putAll? read.1 []).map fun t => (.table (Entries.toTable t), read.2) := by
  rw [inlineTable?]
  split
  · next heq =>
    rw [heq]
    rfl
  · next hopen =>
    rw [if_neg (head?_ne hopen)]
    refine congrArg (Option.bind _) (funext fun read => ?_)
    exact (Option.map_eq_bind ..).symm

end Cases

section Kinds
variable {item? : List Char → Option (Value × List Char)}

theorem items?_eq : ∀ limit cs, items? item? limit cs = readItems? item? limit cs
  | 0, _ => rfl
  | limit + 1, cs => by simp only [items?_succ, readItems?, items?_eq limit]

theorem pairs?_eq : ∀ limit cs, pairs? item? limit cs =
    readPairs? (fun path v => (⟨path.1, path.2, v⟩ : KeyLine)) item? limit cs
  | 0, _ => rfl
  | limit + 1, cs => by simp only [pairs?_succ, readPairs?, pairs?_eq limit]

end Kinds

/-! ### Single values -/

/-- A quoted text is read the same at every depth. -/
theorem value?_quoted {quote : Char} (hquote : quote = '\x22' ∨ quote = '\'') {depth : Nat}
    {cs : List Char} : value? depth (quote :: cs) = (Quoted.read? (quote :: cs)).map fun read =>
      (.string (String.ofList read.1), read.2) := by
  rcases hquote with rfl | rfl <;> cases depth <;> rfl

/-- Texts and words are read the same at every depth. -/
theorem value?_single {depth : Nat} {cs : List Char}
    (harray : ∀ depth' rest, depth = depth' + 1 → cs = '[' :: rest → False)
    (htable : ∀ depth' rest, depth = depth' + 1 → cs = '\x7b' :: rest → False) :
    value? depth cs = value? 0 cs := by
  rw [value?.eq_def, value?.eq_def 0]
  split
  · next depth' rest => exact absurd rfl (harray depth' rest rfl)
  · next depth' rest => exact absurd rfl (htable depth' rest rfl)
  · rfl

/-! ### Lines -/

/-- The rest of a line after blanks and a comment. -/
def lineTail (cs : List Char) : List Char :=
  match skipBlanks cs with
  | '#' :: cs => cs.dropWhile Quoted.isText
  | cs => cs

theorem endLine?_eq (cs : List Char) : endLine? cs =
    match lineTail cs with
    | [] => some []
    | '\n' :: cs => some cs
    | _ => none := rfl

theorem keyLine?_eq (cs : List Char) : keyLine? cs =
    (assigned? cs).bind fun path => (value? maxDepth path.2).bind fun read =>
      (endLine? read.2).map fun rest => (⟨path.1.1, path.1.2, read.1⟩, rest) := by
  rw [keyLine?]
  refine congrArg (Option.bind _) (funext fun path => ?_)
  exact congrArg (Option.bind _) (funext fun read => (Option.map_eq_bind ..).symm)

/-- A line that starts without a blank: an empty line, a comment or an expression. -/
def line? : List Char → Option (List Expression × List Char)
  | '\n' :: rest => some ([], rest)
  | '#' :: rest => (endLine? ('#' :: rest)).map fun rest => ([], rest)
  | '[' :: rest => (header? rest).map fun read => ([.header read.1], read.2)
  | cs => (keyLine? cs).map fun read => ([.keyLine read.1], read.2)

/-- A document is read line by line. -/
theorem expressionsWithin?_succ (limit : Nat) (cs : List Char) :
    expressionsWithin? (limit + 1) cs =
      if (skipBlanks cs).isEmpty then some []
      else (line? (skipBlanks cs)).bind fun read =>
        (expressionsWithin? limit read.2).map (read.1 ++ ·) := by
  rw [expressionsWithin?]
  split
  · next hcs =>
    rw [hcs]
    rfl
  · next rest hcs =>
    rw [hcs, if_neg (by simp), line?]
    exact Option.map_id'.symm
  · next rest hcs =>
    rw [hcs, if_neg (by simp), line?]
    cases endLine? ('#' :: rest) with
    | none => rfl
    | some rest => exact Option.map_id'.symm
  · next rest hcs =>
    rw [hcs, if_neg (by simp), line?]
    cases header? rest with
    | none => rfl
    | some read => exact (Option.map_eq_bind ..).symm
  · next hnil hfeed hcomment hheader =>
    rw [if_neg (by simpa using hnil), line?.eq_4 _ hfeed hcomment hheader]
    cases keyLine? (skipBlanks cs) with
    | none => rfl
    | some read => exact (Option.map_eq_bind ..).symm

end WmConfig.Toml.Syntax
