import WmConfig.Toml.Value

/-! # Tables under construction

While a document is read, a table remembers how it came about, since this decides what may still
be added to it: a header opens a table once; a header with a longer path implies the tables on its
way, and each may be opened later; dotted keys open tables that only dotted keys of the same place
may extend. A value, once written, is closed. -/

namespace WmConfig.Toml

/-- How a table came about. -/
inductive Origin where
  /-- By a header of its own. -/
  | header
  /-- By a header that names it on the way. -/
  | implied
  /-- By a dotted key. -/
  | dotted
deriving DecidableEq, Repr

/-- What stands at a key of a table under construction. -/
inductive Node where
  /-- A closed value. -/
  | value (v : Value)
  /-- A table. -/
  | table (origin : Origin) (entries : List (String × Node))
  /-- The tables of a list header, in order. -/
  | tables (items : List (List (String × Node)))

/-- The keys of a table under construction. -/
abbrev Entries := List (String × Node)

/-- A key with its value, and the path of dotted keys before it. -/
structure KeyLine where
  /-- The path to the table that holds the key. -/
  parents : List String
  /-- The key. -/
  key : String
  /-- The value. -/
  value : Value
deriving DecidableEq

/-- The header of a table, or of one table of a list. -/
structure Header where
  /-- The path to the table that holds the key. -/
  parents : List String
  /-- The key of the table. -/
  key : String
  /-- Whether the table is one of a list. -/
  isList : Bool
deriving DecidableEq

namespace Entries

/-- Edits what stands at a key; a new key comes last. -/
def alter? (key : String) (edit : Option Node → Option Node) : Entries → Option Entries
  | [] => (edit none).map fun node => [(key, node)]
  | (k, node) :: rest =>
    if k = key then (edit (some node)).map fun node => (k, node) :: rest
    else (alter? key edit rest).map ((k, node) :: ·)

/-- Edits the last table of a list. -/
def alterLast? (edit : Entries → Option Entries) : List Entries → Option (List Entries)
  | [] => none
  | [last] => (edit last).map ([·])
  | t :: ts => (alterLast? edit ts).map (t :: ·)

/-- Edits the table at the end of a path, from the table with origin `self` on. Missing tables are
opened with the origin `opened`. A path of dotted keys does not lead through the table of a header. -/
def editAt? (opened : Origin) (edit : Origin → Entries → Option Entries) :
    List String → Origin → Entries → Option Entries
  | [], self, t => edit self t
  | k :: path, _, t =>
    alter? k (fun
      | none => (editAt? opened edit path opened []).map (Node.table opened)
      | some (.value _) => none
      | some (.table origin sub) =>
        if opened = .dotted ∧ origin = .header then none
        else (editAt? opened edit path origin sub).map (Node.table origin)
      | some (.tables items) =>
        (alterLast? (editAt? opened edit path .header) items).map Node.tables) t

/-- Adds a key with its value. A dotted key ends in a table of dotted keys, a plain one in a table
of another origin, and neither may be there already. -/
def put? (line : KeyLine) (t : Entries) : Option Entries :=
  editAt? .dotted
    (fun self t =>
      if (self == .dotted) == line.parents.isEmpty then none
      else if (t.lookup line.key).isSome then none
      else some (t ++ [(line.key, .value line.value)]))
    line.parents .header t

/-- Adds several keys with their values. -/
def putAll? (lines : List KeyLine) (t : Entries) : Option Entries := lines.foldlM (fun t l => put? l t) t

/-- Adds the table of a header, with the keys that stand below it. A table may be opened over the
keys of an implied one; a list takes the table as its last. -/
def addTable? (header : Header) (lines : List KeyLine) (root : Entries) : Option Entries :=
  editAt? .implied
    (fun _ t =>
      if header.isList then
        alter? header.key (fun
          | none => (putAll? lines []).map fun new => .tables [new]
          | some (.tables items) => (putAll? lines []).map fun new => .tables (items ++ [new])
          | some _ => none) t
      else
        let others := t.filter (·.1 != header.key)
        match t.lookup header.key with
        | none => (putAll? lines []).map fun new => others ++ [(header.key, .table .header new)]
        | some (.table .implied sub) =>
          (putAll? lines sub).map fun new => others ++ [(header.key, .table .header new)]
        | some _ => none)
    header.parents .header root

end Entries

/-! ### The finished values -/

mutual

/-- The value of a finished node. -/
def Node.toValue : Node → Value
  | .value v => v
  | .table _ entries => .table (Entries.toTable entries)
  | .tables items => .array (Entries.toItems items)

/-- The values of finished entries. -/
def Entries.toTable : List (String × Node) → Table
  | [] => []
  | (key, node) :: rest => (key, node.toValue) :: Entries.toTable rest

/-- The values of finished tables. -/
def Entries.toItems : List (List (String × Node)) → List Value
  | [] => []
  | t :: rest => .table (Entries.toTable t) :: Entries.toItems rest

end

end WmConfig.Toml
