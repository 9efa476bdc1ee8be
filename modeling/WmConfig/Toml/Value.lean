import WmConfig.Number.Binary
import WmConfig.Toml.Datetime

/-! # Values of a document

A document is a table: a list of keys with their values, each key once, in the order in which the
keys were first written. -/

namespace WmConfig.Toml

/-- A value. -/
inductive Value where
  /-- A text. -/
  | string (text : String)
  /-- A whole number of 64 bits. -/
  | integer (n : Int)
  /-- A floating-point number. -/
  | float (x : Binary64)
  /-- A truth value. -/
  | boolean (b : Bool)
  /-- A date, a time or both. -/
  | datetime (d : Datetime)
  /-- A list of values. -/
  | array (items : List Value)
  /-- Keys with their values. -/
  | table (entries : List (String × Value))

/-- Keys with their values. -/
abbrev Table := List (String × Value)

/-- The value of a key. -/
def Table.get? (t : Table) (key : String) : Option Value := t.lookup key

/-- The keys, in order. -/
def Table.keys (t : Table) : List String := t.map Prod.fst

namespace Value

/-- What kind of value this is, in a word. -/
def kind : Value → String
  | string _ => "string"
  | integer _ => "integer"
  | float _ => "float"
  | boolean _ => "boolean"
  | datetime _ => "datetime"
  | array _ => "array"
  | table _ => "table"

/-- The entries of a table. -/
def table? : Value → Option Table
  | table entries => some entries
  | _ => none

/-- Whether the value is a text. -/
def isString : Value → Bool
  | string _ => true
  | _ => false

/-! ### Equality

A value holds lists of values, and for such a type no equality is derived. It is compared by
recursion over the value and its lists at once, so that what a text is read as can be decided. -/

mutual

/-- Whether two values are the same. -/
def beq : Value → Value → Bool
  | string s, string t => decide (s = t)
  | integer m, integer n => decide (m = n)
  | float x, float y => decide (x = y)
  | boolean a, boolean b => decide (a = b)
  | datetime d, datetime e => decide (d = e)
  | array vs, array ws => beqItems vs ws
  | table t, table u => beqEntries t u
  | _, _ => false

/-- Whether two lists hold the same values. -/
def beqItems : List Value → List Value → Bool
  | [], [] => true
  | v :: vs, w :: ws => v.beq w && beqItems vs ws
  | _, _ => false

/-- Whether two tables hold the same keys and values in one order. -/
def beqEntries : List (String × Value) → List (String × Value) → Bool
  | [], [] => true
  | (k, v) :: t, (l, w) :: u => decide (k = l) && v.beq w && beqEntries t u
  | _, _ => false

end

mutual

theorem beq_iff : ∀ v w : Value, v.beq w = true ↔ v = w
  | array vs, w => by cases w <;> simp [beq, beqItems_iff vs]
  | table t, w => by cases w <;> simp [beq, beqEntries_iff t]
  | string _, w | integer _, w | float _, w | boolean _, w | datetime _, w => by
    cases w <;> simp [beq]

theorem beqItems_iff : ∀ vs ws : List Value, beqItems vs ws = true ↔ vs = ws
  | [], ws => by cases ws <;> simp [beqItems]
  | v :: vs, ws => by cases ws <;> simp [beqItems, beq_iff v, beqItems_iff vs]

theorem beqEntries_iff : ∀ t u : List (String × Value), beqEntries t u = true ↔ t = u
  | [], u => by cases u <;> simp [beqEntries]
  | (k, v) :: t, u => by
    cases u <;> simp [beqEntries, beq_iff v, beqEntries_iff t, Prod.ext_iff]

end

instance : DecidableEq Value := fun v w => decidable_of_iff _ (beq_iff v w)

end Value

end WmConfig.Toml
