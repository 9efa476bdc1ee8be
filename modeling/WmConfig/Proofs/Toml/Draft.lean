import WmConfig.Proofs.Toml.Appended

/-! # Documents as they are written

Whether a text is written as a document has to be is one question, and whether the tables it
describes can be put together is another. Here the first one is asked alone: a value is read as a
draft, in which inline tables keep their lines as written, and a document as a list of statements.
The reader of values is the reader of drafts with the tables put together afterwards
(`Syntax.builds_value`), and so are the expressions of a document (`expressionsOf?_eq_bind`). -/

namespace WmConfig.Toml

/-- A value as it is written. -/
inductive Draft where
  /-- A text, or a value written as a word. -/
  | single (v : Value)
  /-- An array. -/
  | array (items : List Draft)
  /-- An inline table, with the path of each key. -/
  | inline (lines : List ((List String × String) × Draft))

namespace Draft

/-! ### Equality -/

mutual

/-- Whether two drafts are the same. -/
def beq : Draft → Draft → Bool
  | single v, single w => decide (v = w)
  | array ds, array es => beqItems ds es
  | inline ls, inline ms => beqLines ls ms
  | _, _ => false

/-- Whether two arrays are written alike. -/
def beqItems : List Draft → List Draft → Bool
  | [], [] => true
  | d :: ds, e :: es => d.beq e && beqItems ds es
  | _, _ => false

/-- Whether two inline tables are written alike. -/
def beqLines : List ((List String × String) × Draft) →
    List ((List String × String) × Draft) → Bool
  | [], [] => true
  | (p, d) :: ls, (q, e) :: ms => decide (p = q) && d.beq e && beqLines ls ms
  | _, _ => false

end

mutual

theorem beq_iff : ∀ d e : Draft, d.beq e = true ↔ d = e
  | single _, e => by cases e <;> simp [beq]
  | array ds, e => by cases e <;> simp [beq, beqItems_iff ds]
  | inline ls, e => by cases e <;> simp [beq, beqLines_iff ls]

theorem beqItems_iff : ∀ ds es : List Draft, beqItems ds es = true ↔ ds = es
  | [], es => by cases es <;> simp [beqItems]
  | d :: ds, es => by cases es <;> simp [beqItems, beq_iff d, beqItems_iff ds]

theorem beqLines_iff :
    ∀ ls ms : List ((List String × String) × Draft), beqLines ls ms = true ↔ ls = ms
  | [], ms => by cases ms <;> simp [beqLines]
  | (p, d) :: ls, ms => by
    cases ms <;> simp [beqLines, beq_iff d, beqLines_iff ls, Prod.ext_iff]

end

instance : DecidableEq Draft := fun d e => decidable_of_iff _ (beq_iff d e)

end Draft

mutual

/-- The value of a draft, if its inline tables can be put together. -/
def Draft.value? : Draft → Option Value
  | .single v => some v
  | .array items => (Draft.values? items).map .array
  | .inline lines =>
    (Draft.lines? lines).bind fun lines =>
      (Entries.putAll? lines []).map fun t => .table (Entries.toTable t)

/-- The value of each item of an array. -/
def Draft.values? : List Draft → Option (List Value)
  | [] => some []
  | d :: ds => d.value?.bind fun v => (Draft.values? ds).map (v :: ·)

/-- The lines of an inline table with their values. -/
def Draft.lines? : List ((List String × String) × Draft) → Option (List KeyLine)
  | [] => some []
  | ((parents, key), d) :: rest =>
    d.value?.bind fun v => (Draft.lines? rest).map (⟨parents, key, v⟩ :: ·)

end

/-- An expression as it is written. -/
inductive Statement where
  /-- A key with its value. -/
  | keyLine (parents : List String) (key : String) (value : Draft)
  /-- A header. -/
  | header (h : Header)
deriving DecidableEq

/-- The expression of a statement. -/
def Statement.expression? : Statement → Option Expression
  | .keyLine parents key d => d.value?.map fun v => .keyLine ⟨parents, key, v⟩
  | .header h => some (.header h)

/-- The expressions of several statements. -/
def Statement.expressions? : List Statement → Option (List Expression)
  | [] => some []
  | s :: ss => s.expression?.bind fun e => (Statement.expressions? ss).map (e :: ·)

namespace Syntax

/-! ### Reading drafts -/

/-- An inline table, after the opening brace. -/
def draftTable? (draft? : List Char → Option (Draft × List Char)) (cs : List Char) :
    Option (Draft × List Char) :=
  if (skipBlanks cs).head? = some '\x7d' then some (.inline [], (skipBlanks cs).tail)
  else (readPairs? Prod.mk draft? (skipBlanks cs).length (skipBlanks cs)).map fun (lines, rest) =>
    (.inline lines, rest)

/-- A value in which arrays and inline tables are nested at most `depth` deep. -/
def draft? : (depth : Nat) → List Char → Option (Draft × List Char)
  | depth + 1, '[' :: rest =>
    (readItems? (draft? depth) (rest.length + 1) rest).map fun (ds, rest) => (.array ds, rest)
  | depth + 1, '\x7b' :: rest => draftTable? (draft? depth) rest
  | _, cs => (value? 0 cs).map fun (v, rest) => (.single v, rest)

/-- A key with its value, up to the end of the line. -/
def keyStatement? (cs : List Char) : Option (Statement × List Char) :=
  (assigned? cs).bind fun (path, rest) => (draft? maxDepth rest).bind fun (d, rest) =>
    (endLine? rest).map fun rest => (.keyLine path.1 path.2 d, rest)

/-- A line that starts without a blank. -/
def statementLine? : List Char → Option (List Statement × List Char)
  | '\n' :: rest => some ([], rest)
  | '#' :: rest => (endLine? ('#' :: rest)).map fun rest => ([], rest)
  | '[' :: rest => (header? rest).map fun read => ([.header read.1], read.2)
  | cs => (keyStatement? cs).map fun read => ([read.1], read.2)

/-- The statements of a text, in at most `limit` lines. -/
def statementsWithin? : (limit : Nat) → List Char → Option (List Statement)
  | 0, cs => if cs.isEmpty then some [] else none
  | limit + 1, cs =>
    if (skipBlanks cs).isEmpty then some []
    else (statementLine? (skipBlanks cs)).bind fun read =>
      (statementsWithin? limit read.2).map (read.1 ++ ·)

/-! ### Putting together afterwards -/

/-- The second reader puts together what the first one reads. -/
def Builds {α β : Type} (build? : α → Option β) (draft? : List Char → Option (α × List Char))
    (read? : List Char → Option (β × List Char)) : Prop :=
  ∀ cs, read? cs = (draft? cs).bind fun read => (build? read.1).map fun b => (b, read.2)

/-! ### Several values -/

section Lists
variable {α β γ : Type} {build? : α → Option β} {first? : List Char → Option (α × List Char)}
  {second? : List Char → Option (β × List Char)} (h : Builds build? first? second?)
include h

/-- Several values are put together one by one. -/
theorem builds_readItems {builds? : List α → Option (List β)} (hnil : builds? [] = some [])
    (hcons : ∀ a as, builds? (a :: as) =
      (build? a).bind fun b => (builds? as).map (b :: ·)) :
    ∀ limit, Builds builds? (readItems? first? limit) (readItems? second? limit)
  | 0, cs => rfl
  | limit + 1, cs => by
    rw [readItems?, readItems?, h]
    split_ifs with hclose
    · simp [hnil]
    cases first? (skipLines false cs) with
    | none => rfl
    | some read =>
      simp only [Option.bind_some]
      cases hnext : goesOn? ']' (skipLines false read.2) with
      | none => cases build? read.1 <;> simp [hnext]
      | some next =>
        have hrest := builds_readItems hnil hcons limit next.2
        simp only [Option.bind_some]
        split_ifs with hmore
        · cases hitems : readItems? first? limit next.2 with
          | none => cases build? read.1 <;> simp [hnext, hmore, hrest, hitems]
          | some items =>
            cases hb : build? read.1 <;> cases hbs : builds? items.1 <;>
              simp [hnext, hmore, hrest, hitems, hcons, hb, hbs]
        · cases hb : build? read.1 <;> simp [hnext, hmore, hcons, hnil, hb]

/-- Several lines are put together one by one. -/
theorem builds_readPairs {line : List String × String → β → γ}
    {builds? : List ((List String × String) × α) → Option (List γ)} (hnil : builds? [] = some [])
    (hcons : ∀ path a rest, builds? ((path, a) :: rest) =
      (build? a).bind fun b => (builds? rest).map (line path b :: ·)) :
    ∀ limit, Builds builds? (readPairs? Prod.mk first? limit) (readPairs? line second? limit)
  | 0, cs => rfl
  | limit + 1, cs => by
    rw [readPairs?, readPairs?]
    cases assigned? cs with
    | none => rfl
    | some path =>
      simp only [Option.bind_some, h path.2]
      cases first? path.2 with
      | none => rfl
      | some read =>
        simp only [Option.bind_some]
        cases hnext : goesOn? '\x7d' (skipBlanks read.2) with
        | none => cases build? read.1 <;> simp [hnext]
        | some next =>
          have hrest := builds_readPairs hnil hcons limit next.2
          simp only [Option.bind_some]
          split_ifs with hmore
          · cases hlines : readPairs? Prod.mk first? limit next.2 with
            | none => cases build? read.1 <;> simp [hnext, hmore, hrest, hlines]
            | some lines =>
              cases hb : build? read.1 <;> cases hbs : builds? lines.1 <;>
                simp [hnext, hmore, hrest, hlines, hcons, hb, hbs]
          · cases hb : build? read.1 <;> simp [hnext, hmore, hcons, hnil, hb]

end Lists

section Items
variable {draft? : List Char → Option (Draft × List Char)}
  {item? : List Char → Option (Value × List Char)} (hitem : Builds Draft.value? draft? item?)
include hitem

theorem builds_items (limit : Nat) :
    Builds Draft.values? (readItems? draft? limit) (items? item? limit) := by
  intro cs
  rw [items?_eq]
  exact builds_readItems hitem rfl (fun _ _ => rfl) limit cs

theorem builds_pairs (limit : Nat) :
    Builds Draft.lines? (readPairs? Prod.mk draft? limit) (pairs? item? limit) := by
  intro cs
  rw [pairs?_eq]
  refine builds_readPairs hitem ?_ ?_ limit cs
  · rfl
  · exact fun _ _ _ => rfl

theorem builds_inlineTable : Builds Draft.value? (draftTable? draft?) (inlineTable? item?) := by
  intro cs
  rw [inlineTable?_eq, draftTable?, builds_pairs hitem]
  split_ifs with hclose
  · simp [Draft.value?, Draft.lines?, Entries.putAll?, Entries.toTable]
  · cases readPairs? Prod.mk draft? (skipBlanks cs).length (skipBlanks cs) with
    | none => rfl
    | some read =>
      simp only [Option.bind_some, Option.map_some, Draft.value?]
      cases Draft.lines? read.1 with
      | none => rfl
      | some lines =>
        simp only [Option.map_some, Option.bind_some]
        cases Entries.putAll? lines [] <;> rfl

end Items

/-- **A value is a draft with its tables put together.** -/
theorem builds_value : ∀ depth, Builds Draft.value? (draft? depth) (value? depth)
  | depth, cs => by
    rw [draft?.eq_def]
    split
    · next depth rest =>
      rw [value?, builds_items (builds_value depth)]
      cases readItems? (draft? depth) (rest.length + 1) rest with
      | none => rfl
      | some read =>
        simp only [Option.bind_some, Option.map_some, Draft.value?]
        cases Draft.values? read.1 <;> rfl
    · next depth rest => exact builds_inlineTable (builds_value depth) rest
    · next harray htable =>
      rw [value?_single harray htable]
      cases value? 0 cs <;> rfl

theorem builds_keyLine (cs : List Char) : (keyLine? cs).map (fun read => (.keyLine read.1, read.2)) =
    (keyStatement? cs).bind fun read => read.1.expression?.map fun e => (e, read.2) := by
  rw [keyLine?_eq, keyStatement?]
  cases assigned? cs with
  | none => rfl
  | some read =>
    simp only [Option.bind_some, builds_value maxDepth read.2]
    cases draft? maxDepth read.2 with
    | none => rfl
    | some read' =>
      simp only [Option.bind_some]
      cases hend : endLine? read'.2 with
      | none => cases hv : read'.1.value? <;> simp [hend]
      | some rest => cases hv : read'.1.value? <;> simp [hend, hv, Statement.expression?]

theorem builds_line : Builds Statement.expressions? statementLine? line? := by
  intro cs
  rw [line?.eq_def]
  split
  · rfl
  · next rest =>
    rw [statementLine?]
    cases endLine? ('#' :: rest) <;> rfl
  · next rest =>
    rw [statementLine?]
    cases header? rest <;> rfl
  · next hfeed hcomment hheader =>
    have hkey := builds_keyLine cs
    rw [statementLine?.eq_4 _ hfeed hcomment hheader]
    cases hread : keyStatement? cs with
    | none => simp_all
    | some read =>
      simp only [hread, Option.bind_some, Option.map_some, Statement.expressions?] at hkey ⊢
      cases he : read.1.expression? <;> simp_all [Option.map_eq_some_iff]

theorem expressions?_append : ∀ (ss : List Statement) {ss' : List Statement},
    Statement.expressions? (ss ++ ss') = (Statement.expressions? ss).bind fun es =>
      (Statement.expressions? ss').map (es ++ ·)
  | [], ss' => by simp [Statement.expressions?]
  | s :: ss, ss' => by
    rw [List.cons_append, Statement.expressions?, Statement.expressions?, expressions?_append ss]
    cases s.expression? with
    | none => rfl
    | some e =>
      simp only [Option.bind_some]
      cases Statement.expressions? ss with
      | none => rfl
      | some es => cases Statement.expressions? ss' <;> rfl

theorem expressionsWithin?_eq_bind : ∀ (limit : Nat) (cs : List Char),
    expressionsWithin? limit cs = (statementsWithin? limit cs).bind Statement.expressions?
  | 0, cs => by
    rw [expressionsWithin?, statementsWithin?]
    split_ifs <;> rfl
  | limit + 1, cs => by
    rw [expressionsWithin?_succ, statementsWithin?, builds_line]
    split_ifs
    · rfl
    cases statementLine? (skipBlanks cs) with
    | none => rfl
    | some read =>
      simp only [Option.bind_some, expressionsWithin?_eq_bind limit]
      cases hss : statementsWithin? limit read.2 with
      | none => cases Statement.expressions? read.1 <;> simp [hss]
      | some ss =>
        simp only [Option.map_some, Option.bind_some, expressions?_append]
        cases Statement.expressions? read.1 <;> simp [hss]

end Syntax

/-- The statements of a text. -/
def statementsOf? (text : String) : Option (List Statement) :=
  let cs := joinLineEnds (skipMark text.toList)
  Syntax.statementsWithin? cs.length cs

/-- **The expressions of a text are its statements with their values put together.** -/
theorem expressionsOf?_eq_bind (text : String) :
    expressionsOf? text = (statementsOf? text).bind Statement.expressions? :=
  Syntax.expressionsWithin?_eq_bind _ _

end WmConfig.Toml
