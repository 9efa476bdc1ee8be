import WmConfig.Toml.Syntax

/-! # Documents

From a text to the table it describes. A byte order mark at the front is skipped, and a carriage
return before a line feed belongs to the line end; what is left is read as expressions, and these
are put together table by table.

* `parse?`: the table of a text.
* `Table.withDates?`: the table with the date forms that are spelled as tables of one reserved
  key. -/

namespace WmConfig.Toml

/-! ### Text -/

/-- Skips a byte order mark. -/
def skipMark : List Char → List Char
  | '\ufeff' :: cs => cs
  | cs => cs

/-- Turns each carriage return and line feed into a line feed. Either is a line end wherever a
document has one, between its lines as well as in its texts, so the readers need to know one of
them. A carriage return alone stays, and no reader takes it. -/
def joinLineEnds : List Char → List Char
  | [] => []
  | '\r' :: '\n' :: cs => '\n' :: joinLineEnds cs
  | c :: cs => c :: joinLineEnds cs

/-! ### Assembly -/

/-- A header and the keys below it. -/
structure Block where
  /-- The header. -/
  header : Header
  /-- The keys. -/
  lines : List KeyLine

/-- Cuts the expressions at the headers: the keys before the first one, and a block for each. -/
def blocks : List Expression → List KeyLine × List Block
  | [] => ([], [])
  | .keyLine line :: es => (line :: (blocks es).1, (blocks es).2)
  | .header h :: es => ([], ⟨h, (blocks es).1⟩ :: (blocks es).2)

/-- The table that the expressions describe. -/
def assemble? (es : List Expression) : Option Table := do
  let (lines, blocks) := blocks es
  let root ← Entries.putAll? lines []
  let root ← blocks.foldlM (fun root b => Entries.addTable? b.header b.lines root) root
  return Entries.toTable root

/-- The table that a text describes. -/
def parse? (text : String) : Option Table := do
  assemble? (← Syntax.expressions? (joinLineEnds (skipMark text.toList)))

/-! ### Dates as tables -/

/-- The key of a table that stands for a date form. -/
def reservedDateKey : String := "$__toml_private_datetime"

/-- The date form that the value of the reserved key spells. -/
def reservedDate? : Value → Option Datetime
  | .string text => Datetime.whole? .spelled text.toList
  | _ => none

mutual

/-- The value with the date forms for the tables that start with the reserved key. -/
def Value.withDates? : Value → Option Value
  | .array items => (Value.itemsWithDates? items).map .array
  | .table ((key, v) :: rest) =>
    if key = reservedDateKey then (reservedDate? v).map .datetime
    else do
      let v ← v.withDates?
      return .table ((key, v) :: (← Value.entriesWithDates? rest))
  | v => some v

/-- The same for each item of an array. -/
def Value.itemsWithDates? : List Value → Option (List Value)
  | [] => some []
  | v :: vs => do
    let v ← v.withDates?
    return v :: (← Value.itemsWithDates? vs)

/-- The same for the value of each key. -/
def Value.entriesWithDates? : List (String × Value) → Option (List (String × Value))
  | [] => some []
  | (key, v) :: rest => do
    let v ← v.withDates?
    return (key, v) :: (← Value.entriesWithDates? rest)

end

/-- A document with its date forms; at the top the reserved key is a key like any other. -/
def Table.withDates? (t : Table) : Option Table := Value.entriesWithDates? t

end WmConfig.Toml
