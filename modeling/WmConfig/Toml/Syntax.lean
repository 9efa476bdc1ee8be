import WmConfig.Toml.Quoted
import WmConfig.Toml.Scalar
import WmConfig.Toml.Tree

/-! # Expressions of a document

A document is a sequence of expressions, each on lines of its own: a key with a value, the header
of a table, or the header of one table of a list. Blanks, empty lines and comments may stand
between them.

Each reader takes a text and returns what it read together with the rest of the text. Line ends are
line feeds here. -/

namespace WmConfig.Toml

/-- One expression. -/
inductive Expression where
  /-- A key with its value. -/
  | keyLine (line : KeyLine)
  /-- A header. -/
  | header (h : Header)
deriving DecidableEq

namespace Syntax

/-- How many keys a path may have. -/
def maxPath : Nat := 79

/-- How deep arrays and inline tables may be nested. -/
def maxDepth : Nat := 79

/-! ### Between the tokens -/

/-- Skips blanks. -/
def skipBlanks (cs : List Char) : List Char := cs.dropWhile fun c => c == ' ' || c == '\t'

/-- Takes the rest of a line, which may hold a comment; the text may end instead of the line. -/
def endLine? (cs : List Char) : Option (List Char) :=
  let rest := match skipBlanks cs with
    | '#' :: cs => cs.dropWhile Quoted.isText
    | cs => cs
  match rest with
  | [] => some []
  | '\n' :: cs => some cs
  | _ => none

/-- Skips blanks, line ends and comments; `inComment` tells whether the text starts within one. -/
def skipLines (inComment : Bool) : List Char → List Char
  | [] => []
  | c :: cs =>
    if c = '\n' then skipLines false cs
    else if inComment then (if Quoted.isText c then skipLines true cs else c :: cs)
    else if c = '#' then skipLines true cs
    else if c = ' ' ∨ c = '\t' then skipLines false cs
    else c :: cs

/-! ### Keys -/

/-- A character of a bare key. -/
def isBare (c : Char) : Bool := c.isAlphanum || c == '-' || c == '_'

/-- A single key: bare, or quoted on one line. -/
def simpleKey? (cs : List Char) : Option (String × List Char) :=
  match cs with
  | '\x22' :: rest => (Quoted.basic? rest).map fun (key, rest) => (String.ofList key, rest)
  | '\'' :: rest => (Quoted.literal? rest).map fun (key, rest) => (String.ofList key, rest)
  | _ =>
    let key := cs.takeWhile isBare
    if key.isEmpty then none else some (String.ofList key, cs.dropWhile isBare)

/-- Keys with dots between them, at most `limit`: the path before the last key, and that key. -/
def keyPath? : (limit : Nat) → List Char → Option ((List String × String) × List Char)
  | 0, _ => none
  | limit + 1, cs => do
    let (key, rest) ← simpleKey? (skipBlanks cs)
    match skipBlanks rest with
    | '.' :: rest =>
      let ((path, last), rest) ← keyPath? limit rest
      return ((key :: path, last), rest)
    | rest => return (([], key), rest)

/-- A key path and the equals sign after it. -/
def assigned? (cs : List Char) : Option ((List String × String) × List Char) :=
  match keyPath? maxPath cs with
  | some (path, '=' :: rest) => some (path, skipBlanks rest)
  | _ => none

/-! ### Values -/

/-- The items of an array up to the closing bracket, at most `limit` readings long. -/
def items? (item? : List Char → Option (Value × List Char)) :
    (limit : Nat) → List Char → Option (List Value × List Char)
  | 0, _ => none
  | limit + 1, cs =>
    match skipLines false cs with
    | ']' :: rest => some ([], rest)
    | cs => do
      let (v, rest) ← item? cs
      match skipLines false rest with
      | ']' :: rest => return ([v], rest)
      | ',' :: rest =>
        let (vs, rest) ← items? item? limit rest
        return (v :: vs, rest)
      | _ => none

/-- The keys of a non-empty inline table up to the closing brace, at most `limit` of them. -/
def pairs? (item? : List Char → Option (Value × List Char)) :
    (limit : Nat) → List Char → Option (List KeyLine × List Char)
  | 0, _ => none
  | limit + 1, cs => do
    let ((parents, key), rest) ← assigned? cs
    let (value, rest) ← item? rest
    match skipBlanks rest with
    | '\x7d' :: rest => return ([⟨parents, key, value⟩], rest)
    | ',' :: rest =>
      let (lines, rest) ← pairs? item? limit rest
      return (⟨parents, key, value⟩ :: lines, rest)
    | _ => none

/-- An inline table, after the opening brace. -/
def inlineTable? (item? : List Char → Option (Value × List Char)) (cs : List Char) :
    Option (Value × List Char) :=
  match skipBlanks cs with
  | '\x7d' :: rest => some (.table [], rest)
  | cs => do
    let (lines, rest) ← pairs? item? cs.length cs
    return (.table (Entries.toTable (← Entries.putAll? lines [])), rest)

/-- A value in which arrays and inline tables are nested at most `depth` deep. An item takes at
least a character, so the length of the text bounds the number of items. -/
def value? : (depth : Nat) → List Char → Option (Value × List Char)
  | depth + 1, '[' :: rest =>
    (items? (value? depth) (rest.length + 1) rest).map fun (vs, rest) => (.array vs, rest)
  | depth + 1, '\x7b' :: rest => inlineTable? (value? depth) rest
  | _, cs =>
    match cs with
    | '\x22' :: _ => (Quoted.read? cs).map fun (text, rest) => (.string (String.ofList text), rest)
    | '\'' :: _ => (Quoted.read? cs).map fun (text, rest) => (.string (String.ofList text), rest)
    | _ => Scalar.read? cs

/-! ### Expressions -/

/-- A key with its value, up to the end of the line. -/
def keyLine? (cs : List Char) : Option (KeyLine × List Char) := do
  let ((parents, key), rest) ← assigned? cs
  let (value, rest) ← value? maxDepth rest
  return (⟨parents, key, value⟩, ← endLine? rest)

/-- A header after its opening bracket, up to the end of the line. -/
def header? (cs : List Char) : Option (Header × List Char) :=
  match cs with
  | '[' :: cs =>
    match keyPath? maxPath cs with
    | some ((parents, key), ']' :: ']' :: rest) =>
      (endLine? rest).map fun rest => (⟨parents, key, true⟩, rest)
    | _ => none
  | cs =>
    match keyPath? maxPath cs with
    | some ((parents, key), ']' :: rest) =>
      (endLine? rest).map fun rest => (⟨parents, key, false⟩, rest)
    | _ => none

/-- The expressions of a text, in at most `limit` lines and expressions. -/
def expressionsWithin? : (limit : Nat) → List Char → Option (List Expression)
  | 0, cs => if cs.isEmpty then some [] else none
  | limit + 1, cs =>
    match skipBlanks cs with
    | [] => some []
    | '\n' :: rest => expressionsWithin? limit rest
    | '#' :: rest => (endLine? ('#' :: rest)).bind (expressionsWithin? limit)
    | '[' :: rest => do
      let (h, rest) ← header? rest
      return .header h :: (← expressionsWithin? limit rest)
    | cs => do
      let (line, rest) ← keyLine? cs
      return .keyLine line :: (← expressionsWithin? limit rest)

/-- The expressions of a text. Each takes at least a character. -/
def expressions? (cs : List Char) : Option (List Expression) := expressionsWithin? cs.length cs

end Syntax

end WmConfig.Toml
