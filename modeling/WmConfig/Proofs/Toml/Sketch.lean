import Mathlib.Data.List.TakeWhile
import WmConfig.Proofs.Toml.Draft

/-! # Documents with their words unread

Where a word ends does not depend on what it stands for. So a text can be read as a sketch first, in
which texts are read and words are kept as they are written, and its words afterwards: this gives
the statements of the text (`statementsOf?_eq_bind`), and so its document (`parse?_eq_mapM`). A word
that stands for nothing is a fault of the whole text. -/

namespace WmConfig.Toml

/-- A value with its words unread. -/
inductive Sketch where
  /-- A text. -/
  | text (s : String)
  /-- A word, or a day and its time with the space between them. -/
  | word (cs : List Char)
  /-- An array. -/
  | array (items : List Sketch)
  /-- An inline table, with the path of each key. -/
  | inline (lines : List ((List String × String) × Sketch))

namespace Sketch

/-! ### Equality -/

mutual

/-- Whether two sketches are the same. -/
def beq : Sketch → Sketch → Bool
  | text s, text t => decide (s = t)
  | word cs, word ds => decide (cs = ds)
  | array ds, array es => beqItems ds es
  | inline ls, inline ms => beqLines ls ms
  | _, _ => false

/-- Whether two arrays are written alike. -/
def beqItems : List Sketch → List Sketch → Bool
  | [], [] => true
  | d :: ds, e :: es => d.beq e && beqItems ds es
  | _, _ => false

/-- Whether two inline tables are written alike. -/
def beqLines : List ((List String × String) × Sketch) →
    List ((List String × String) × Sketch) → Bool
  | [], [] => true
  | (p, d) :: ls, (q, e) :: ms => decide (p = q) && d.beq e && beqLines ls ms
  | _, _ => false

end

mutual

theorem beq_iff : ∀ d e : Sketch, d.beq e = true ↔ d = e
  | text _, e | word _, e => by cases e <;> simp [beq]
  | array ds, e => by cases e <;> simp [beq, beqItems_iff ds]
  | inline ls, e => by cases e <;> simp [beq, beqLines_iff ls]

theorem beqItems_iff : ∀ ds es : List Sketch, beqItems ds es = true ↔ ds = es
  | [], es => by cases es <;> simp [beqItems]
  | d :: ds, es => by cases es <;> simp [beqItems, beq_iff d, beqItems_iff ds]

theorem beqLines_iff :
    ∀ ls ms : List ((List String × String) × Sketch), beqLines ls ms = true ↔ ls = ms
  | [], ms => by cases ms <;> simp [beqLines]
  | (p, d) :: ls, ms => by
    cases ms <;> simp [beqLines, beq_iff d, beqLines_iff ls, Prod.ext_iff]

end

instance : DecidableEq Sketch := fun d e => decidable_of_iff _ (beq_iff d e)

end Sketch

namespace Scalar

/-- The word at the front of a text, with the time after a day, and the rest. -/
def cut (cs : List Char) : List Char × List Char :=
  let word := cs.takeWhile isWordChar
  match isDay word, cs.dropWhile isWordChar with
  | true, ' ' :: c :: rest =>
    if c.isDigit then (word ++ ' ' :: c :: rest.takeWhile isWordChar, rest.dropWhile isWordChar)
    else (word, ' ' :: c :: rest)
  | _, rest => (word, rest)

/-- The value of a word that has been cut off. -/
def ofCut? (word : List Char) : Option Value :=
  if ' ' ∈ word then (Datetime.whole? .value word).map .datetime else ofWord? word

section Cut
variable {cs : List Char}

/-- A day takes a time behind a space with it. -/
theorem cut_day (hday : isDay (cs.takeWhile isWordChar) = true) {c : Char} {rest : List Char}
    (hrest : cs.dropWhile isWordChar = ' ' :: c :: rest) : cut cs =
      if c.isDigit then
        (cs.takeWhile isWordChar ++ ' ' :: c :: rest.takeWhile isWordChar,
          rest.dropWhile isWordChar)
      else (cs.takeWhile isWordChar, cs.dropWhile isWordChar) := by
  simp only [cut, hday, hrest]

theorem cut_word (h : ∀ c rest, isDay (cs.takeWhile isWordChar) = true →
    cs.dropWhile isWordChar = ' ' :: c :: rest → False) :
    cut cs = (cs.takeWhile isWordChar, cs.dropWhile isWordChar) := by
  rw [cut]
  split
  · next c rest hday hrest => exact absurd hrest (h c rest hday)
  · rfl

/-- A word is cut off and read. -/
theorem read?_eq_cut (cs : List Char) :
    read? cs = (ofCut? (cut cs).1).map (·, (cut cs).2) := by
  have hspace : ' ' ∉ cs.takeWhile isWordChar := fun h =>
    absurd (List.mem_takeWhile_imp h) (by decide)
  have hword : ofCut? (cs.takeWhile isWordChar) = ofWord? (cs.takeWhile isWordChar) := if_neg hspace
  rw [read?]
  split
  · next rest c rest' hday hrest =>
    rw [cut_day hday hrest]
    split_ifs with hdigit
    · simp only [ofCut?, List.mem_append, List.mem_cons, true_or, or_true, if_true, Option.map_map]
      rfl
    · rw [hword, hrest]
  · next hnot => rw [cut_word hnot, hword]

end Cut

end Scalar

mutual

/-- The draft of a sketch, if all of its words stand for values. -/
def Sketch.draft? : Sketch → Option Draft
  | .text s => some (.single (.string s))
  | .word cs => (Scalar.ofCut? cs).map .single
  | .array items => (Sketch.drafts? items).map .array
  | .inline lines => (Sketch.lines? lines).map .inline

/-- The draft of each item of an array. -/
def Sketch.drafts? : List Sketch → Option (List Draft)
  | [] => some []
  | s :: ss => s.draft?.bind fun d => (Sketch.drafts? ss).map (d :: ·)

/-- The draft of each line of an inline table. -/
def Sketch.lines? : List ((List String × String) × Sketch) →
    Option (List ((List String × String) × Draft))
  | [] => some []
  | (path, s) :: rest => s.draft?.bind fun d => (Sketch.lines? rest).map ((path, d) :: ·)

end

/-- An expression with its words unread. -/
inductive SketchLine where
  /-- A key with its value. -/
  | keyLine (parents : List String) (key : String) (value : Sketch)
  /-- A header. -/
  | header (h : Header)
deriving DecidableEq

/-- The statement of a line. -/
def SketchLine.statement? : SketchLine → Option Statement
  | .keyLine parents key s => s.draft?.map (.keyLine parents key)
  | .header h => some (.header h)

/-- The statements of several lines. -/
def SketchLine.statements? : List SketchLine → Option (List Statement)
  | [] => some []
  | l :: ls => l.statement?.bind fun s => (SketchLine.statements? ls).map (s :: ·)

namespace Syntax

/-! ### Reading sketches -/

/-- A text, or a word. -/
def sketchSingle? : List Char → Option (Sketch × List Char)
  | '\x22' :: cs => (Quoted.read? ('\x22' :: cs)).map fun (text, rest) =>
    (.text (String.ofList text), rest)
  | '\'' :: cs => (Quoted.read? ('\'' :: cs)).map fun (text, rest) =>
    (.text (String.ofList text), rest)
  | cs => some (.word (Scalar.cut cs).1, (Scalar.cut cs).2)

/-- An inline table, after the opening brace. -/
def sketchTable? (sketch? : List Char → Option (Sketch × List Char)) (cs : List Char) :
    Option (Sketch × List Char) :=
  if (skipBlanks cs).head? = some '\x7d' then some (.inline [], (skipBlanks cs).tail)
  else (readPairs? Prod.mk sketch? (skipBlanks cs).length (skipBlanks cs)).map fun (lines, rest) =>
    (.inline lines, rest)

/-- A value in which arrays and inline tables are nested at most `depth` deep. -/
def sketch? : (depth : Nat) → List Char → Option (Sketch × List Char)
  | depth + 1, '[' :: rest =>
    (readItems? (sketch? depth) (rest.length + 1) rest).map fun (ss, rest) => (.array ss, rest)
  | depth + 1, '\x7b' :: rest => sketchTable? (sketch? depth) rest
  | _, cs => sketchSingle? cs

/-- A key with its value, up to the end of the line. -/
def keySketch? (cs : List Char) : Option (SketchLine × List Char) :=
  (assigned? cs).bind fun (path, rest) => (sketch? maxDepth rest).bind fun (s, rest) =>
    (endLine? rest).map fun rest => (.keyLine path.1 path.2 s, rest)

/-- A line that starts without a blank. -/
def sketchLine? : List Char → Option (List SketchLine × List Char)
  | '\n' :: rest => some ([], rest)
  | '#' :: rest => (endLine? ('#' :: rest)).map fun rest => ([], rest)
  | '[' :: rest => (header? rest).map fun read => ([.header read.1], read.2)
  | cs => (keySketch? cs).map fun read => ([read.1], read.2)

/-- The lines of a text, at most `limit` of them. -/
def sketchWithin? : (limit : Nat) → List Char → Option (List SketchLine)
  | 0, cs => if cs.isEmpty then some [] else none
  | limit + 1, cs =>
    if (skipBlanks cs).isEmpty then some []
    else (sketchLine? (skipBlanks cs)).bind fun read =>
      (sketchWithin? limit read.2).map (read.1 ++ ·)

/-! ### Reading the words afterwards -/

theorem builds_sketchSingle (cs : List Char) :
    (value? 0 cs).map (fun read => (Draft.single read.1, read.2)) =
      (sketchSingle? cs).bind fun read => read.1.draft?.map fun d => (d, read.2) := by
  rw [sketchSingle?.eq_def]
  split
  · next cs =>
    have hvalue : value? 0 ('\x22' :: cs) = (Quoted.read? ('\x22' :: cs)).map fun read =>
        (.string (String.ofList read.1), read.2) := rfl
    rw [hvalue]
    cases Quoted.read? ('\x22' :: cs) <;> rfl
  · next cs =>
    have hvalue : value? 0 ('\'' :: cs) = (Quoted.read? ('\'' :: cs)).map fun read =>
        (.string (String.ofList read.1), read.2) := rfl
    rw [hvalue]
    cases Quoted.read? ('\'' :: cs) <;> rfl
  · next hbasic hliteral =>
    rw [value?.eq_5 0 cs (fun _ _ h => by cases h) (fun _ _ h => by cases h) hbasic hliteral,
      Scalar.read?_eq_cut]
    simp only [Option.bind_some, Sketch.draft?]
    cases Scalar.ofCut? (Scalar.cut cs).1 <;> rfl

theorem builds_sketchTable {sketch? : List Char → Option (Sketch × List Char)}
    {draft? : List Char → Option (Draft × List Char)} (h : Builds Sketch.draft? sketch? draft?) :
    Builds Sketch.draft? (sketchTable? sketch?) (draftTable? draft?) := by
  intro cs
  rw [draftTable?, sketchTable?]
  split_ifs with hclose
  · rfl
  · have hpairs : Builds Sketch.lines? (readPairs? Prod.mk sketch? (skipBlanks cs).length)
        (readPairs? Prod.mk draft? (skipBlanks cs).length) := by
      refine builds_readPairs h ?_ ?_ _
      · rfl
      · exact fun _ _ _ => rfl
    rw [hpairs]
    cases readPairs? Prod.mk sketch? (skipBlanks cs).length (skipBlanks cs) with
    | none => rfl
    | some read =>
      simp only [Option.bind_some, Option.map_some, Sketch.draft?]
      cases Sketch.lines? read.1 <;> rfl

theorem builds_sketchItems {sketch? : List Char → Option (Sketch × List Char)}
    {draft? : List Char → Option (Draft × List Char)} (h : Builds Sketch.draft? sketch? draft?)
    (limit : Nat) : Builds Sketch.drafts? (readItems? sketch? limit) (readItems? draft? limit) :=
  builds_readItems h rfl (fun _ _ => rfl) limit

/-- **A draft is a sketch with its words read.** -/
theorem builds_sketch : ∀ depth, Builds Sketch.draft? (sketch? depth) (draft? depth)
  | depth, cs => by
    rw [sketch?.eq_def]
    split
    · next depth rest =>
      rw [draft?, builds_sketchItems (builds_sketch depth)]
      cases readItems? (sketch? depth) (rest.length + 1) rest with
      | none => rfl
      | some read =>
        simp only [Option.bind_some, Option.map_some, Sketch.draft?]
        cases Sketch.drafts? read.1 <;> rfl
    · next depth rest => exact builds_sketchTable (builds_sketch depth) rest
    · next harray htable =>
      rw [draft?.eq_3 _ _ harray htable]
      exact builds_sketchSingle cs

theorem builds_keySketch : Builds SketchLine.statement? keySketch? keyStatement? := by
  intro cs
  rw [keyStatement?, keySketch?]
  cases assigned? cs with
  | none => rfl
  | some read =>
    simp only [Option.bind_some, builds_sketch maxDepth read.2]
    cases sketch? maxDepth read.2 with
    | none => rfl
    | some read' =>
      simp only [Option.bind_some]
      cases hend : endLine? read'.2 with
      | none => cases hd : read'.1.draft? <;> simp [hend]
      | some rest => cases hd : read'.1.draft? <;> simp [hend, hd, SketchLine.statement?]

theorem builds_sketchLine : Builds SketchLine.statements? sketchLine? statementLine? := by
  intro cs
  rw [sketchLine?.eq_def]
  split
  · rfl
  · next rest =>
    rw [statementLine?]
    cases endLine? ('#' :: rest) <;> rfl
  · next rest =>
    rw [statementLine?]
    cases header? rest <;> rfl
  · next hfeed hcomment hheader =>
    rw [statementLine?.eq_4 _ hfeed hcomment hheader, builds_keySketch]
    cases keySketch? cs with
    | none => rfl
    | some read =>
      simp only [Option.bind_some, Option.map_some, SketchLine.statements?]
      cases read.1.statement? <;> rfl

theorem statements?_append : ∀ (ls : List SketchLine) {ls' : List SketchLine},
    SketchLine.statements? (ls ++ ls') = (SketchLine.statements? ls).bind fun ss =>
      (SketchLine.statements? ls').map (ss ++ ·)
  | [], ls' => by simp [SketchLine.statements?]
  | l :: ls, ls' => by
    rw [List.cons_append, SketchLine.statements?, SketchLine.statements?, statements?_append ls]
    cases l.statement? with
    | none => rfl
    | some s =>
      simp only [Option.bind_some]
      cases SketchLine.statements? ls with
      | none => rfl
      | some ss => cases SketchLine.statements? ls' <;> rfl

theorem statementsWithin?_eq_bind : ∀ (limit : Nat) (cs : List Char),
    statementsWithin? limit cs = (sketchWithin? limit cs).bind SketchLine.statements?
  | 0, cs => by
    rw [statementsWithin?, sketchWithin?]
    split_ifs <;> rfl
  | limit + 1, cs => by
    rw [statementsWithin?, sketchWithin?, builds_sketchLine]
    split_ifs
    · rfl
    cases sketchLine? (skipBlanks cs) with
    | none => rfl
    | some read =>
      simp only [Option.bind_some, statementsWithin?_eq_bind limit]
      cases hls : sketchWithin? limit read.2 with
      | none => cases SketchLine.statements? read.1 <;> simp [hls]
      | some ls =>
        simp only [Option.map_some, Option.bind_some, statements?_append]
        cases SketchLine.statements? read.1 <;> simp [hls]

end Syntax

/-- The lines of a text with their words unread. -/
def sketchOf? (text : String) : Option (List SketchLine) :=
  let cs := joinLineEnds (skipMark text.toList)
  Syntax.sketchWithin? cs.length cs

/-- **The statements of a text are its lines with their words read.** -/
theorem statementsOf?_eq_bind (text : String) :
    statementsOf? text = (sketchOf? text).bind SketchLine.statements? :=
  Syntax.statementsWithin?_eq_bind _ _

/-! ### Values -/

/-- A key line with its words unread, with the path of its key. -/
abbrev SketchKey := (List String × String) × Sketch

/-- The value of a sketch. -/
def Sketch.value? (s : Sketch) : Option Value := s.draft?.bind Draft.value?

/-- The key line with its value. -/
def SketchKey.keyLine? (l : SketchKey) : Option KeyLine :=
  l.2.value?.map fun v => ⟨l.1.1, l.1.2, v⟩

/-- The key line as a line of a document. -/
def SketchKey.line (l : SketchKey) : SketchLine := .keyLine l.1.1 l.1.2 l.2

/-- The expression of a line. -/
def SketchLine.expression? (l : SketchLine) : Option Expression :=
  l.statement?.bind Statement.expression?

theorem Sketch.value?_word (cs : List Char) : (Sketch.word cs).value? = Scalar.ofCut? cs := by
  rw [value?, draft?]
  cases Scalar.ofCut? cs <;> rfl

theorem Sketch.lines?_bind : ∀ lines : List SketchKey,
    (Sketch.lines? lines).bind Draft.lines? = lines.mapM SketchKey.keyLine?
  | [] => rfl
  | ((parents, key), s) :: lines => by
    rw [Sketch.lines?, List.mapM_cons, ← lines?_bind lines, SketchKey.keyLine?, Sketch.value?]
    cases s.draft? with
    | none => rfl
    | some d =>
      cases hlines : Sketch.lines? lines with
      | none => cases hd : d.value? <;> simp [hd]
      | some ds => cases hd : d.value? <;> cases hds : Draft.lines? ds <;> simp [Draft.lines?, hd, hds]

theorem Sketch.value?_inline (lines : List SketchKey) : (Sketch.inline lines).value? =
    (lines.mapM SketchKey.keyLine?).bind fun lines =>
      (Entries.putAll? lines []).map fun t => .table (Entries.toTable t) := by
  rw [← lines?_bind, value?, draft?]
  cases Sketch.lines? lines <;> rfl

theorem SketchKey.expression?_line (l : SketchKey) :
    l.line.expression? = l.keyLine?.map .keyLine := by
  rw [line, SketchLine.expression?, SketchLine.statement?, keyLine?, Sketch.value?]
  cases l.2.draft? with
  | none => rfl
  | some d => simp [Statement.expression?, Function.comp_def]

theorem SketchLine.statements?_bind : ∀ ls : List SketchLine,
    (SketchLine.statements? ls).bind Statement.expressions? = ls.mapM SketchLine.expression?
  | [] => rfl
  | l :: ls => by
    rw [SketchLine.statements?, List.mapM_cons, ← statements?_bind ls, SketchLine.expression?]
    cases l.statement? with
    | none => rfl
    | some s =>
      cases hls : SketchLine.statements? ls with
      | none => cases hs : s.expression? <;> simp [hs]
      | some ss =>
        cases hs : s.expression? <;> cases hss : Statement.expressions? ss <;>
          simp [Statement.expressions?, hs, hss]

/-- **The document of a text** is put together from its lines. -/
theorem parse?_eq_mapM (text : String) : parse? text = (sketchOf? text).bind fun ls =>
    (ls.mapM SketchLine.expression?).bind assemble? := by
  rw [parse?_eq, expressionsOf?_eq_bind, statementsOf?_eq_bind, Option.bind_assoc, Option.bind_assoc]
  congr 1
  funext ls
  rw [← SketchLine.statements?_bind, Option.bind_assoc]

section Readers
variable {α β : Type} {f : α → Option β} {as as' : List α} {a : α}

theorem mapM_eq_none (ha : f a = none) : ∀ {as : List α}, a ∈ as → as.mapM f = none
  | b :: as, h => by
    rw [List.mapM_cons]
    rcases List.mem_cons.mp h with rfl | h
    · rw [ha]
      rfl
    · rw [mapM_eq_none ha h]
      exact Option.bind_fun_none _

theorem mapM_append_eq_some_iff {bs : List β} : (as ++ as').mapM f = some bs ↔
    ∃ front back, as.mapM f = some front ∧ as'.mapM f = some back ∧ front ++ back = bs := by
  simp [List.mapM_append, Option.bind_eq_some_iff]

theorem mapM_cons_eq_some_iff {bs : List β} : (a :: as).mapM f = some bs ↔
    ∃ b rest, f a = some b ∧ as.mapM f = some rest ∧ b :: rest = bs := by
  simp [List.mapM_cons, Option.bind_eq_some_iff]

end Readers

theorem SketchKey.mapM_line (lines : List SketchKey) :
    (lines.map SketchKey.line).mapM SketchLine.expression? =
      (lines.mapM SketchKey.keyLine?).map (List.map .keyLine) := by
  induction lines with
  | nil => rfl
  | cons l lines ih =>
    rw [List.map_cons, List.mapM_cons, List.mapM_cons, ih, expression?_line]
    cases hl : l.keyLine? with
    | none => rfl
    | some line => cases lines.mapM SketchKey.keyLine? <;> rfl

end WmConfig.Toml
