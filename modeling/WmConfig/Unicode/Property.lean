import WmConfig.Unicode.Age
import WmConfig.Unicode.Binary
import WmConfig.Unicode.Script
import WmConfig.Unicode.Segmentation

/-! # Properties by name

Names of properties and of their values are matched loosely: case, spaces, underscores, hyphens and
a leading `is` do not count, nor does any character outside ASCII.

* `named?`: the characters of a binary property, a general category or a script.
* `valued?`: the characters for which a property has a given value. -/

namespace WmConfig.Unicode

/-- What counts of a name, without regard to a leading `is`. -/
def significant (name : List Char) : String :=
  String.ofList ((name.filter fun c => c.toNat < 128 && !(c == ' ' || c == '_' || c == '-')).map
    Char.toLower)

/-- What counts of a name. One name starts with `is` of its own and keeps it. -/
def looseName (name : List Char) : String :=
  match name with
  | i :: s :: rest =>
    if i.toLower = 'i' ∧ s.toLower = 's' then
      if significant rest = "c" then "isc" else significant rest
    else significant name
  | _ => significant name

/-- The categories that a name stands for; every one has assigned characters. -/
def categories? (name : String) : Option (List Category) :=
  match name with
  | "l" | "letter" => some Category.letters
  | "lc" | "casedletter" => some Category.casedLetters
  | "m" | "mark" | "combiningmark" => some Category.marks
  | "n" | "number" => some Category.numbers
  | "p" | "punctuation" | "punct" => some Category.punctuation
  | "s" | "symbol" => some Category.symbols
  | "z" | "separator" => some Category.separators
  | _ => (Category.all.find? fun c => c.names.contains name).map ([·])

/-- The characters of a general category. -/
def category? (name : String) : Option CharSet :=
  match name with
  | "any" => some CharSet.empty.complement
  | "ascii" => some (.ofRange 0 0x7f)
  | "assigned" => some unassigned.complement
  | "cn" | "unassigned" => some unassigned
  | "c" | "other" => some (Category.sets [.control, .format, .privateUse] ∪ unassigned)
  | _ => (categories? name).map Category.sets

/-- The characters of a binary property, a general category or a script. -/
def named? (name : List Char) : Option CharSet :=
  let name := looseName name
  (BinaryProperty.named? name).map BinaryProperty.set <|> category? name <|>
    (Script.named? name).map Script.set

/-- The characters for which a property has a value. -/
def valued? (property value : List Char) : Option CharSet :=
  let value := looseName value
  match looseName property with
  | "gc" | "generalcategory" => category? value
  | "sc" | "script" => (Script.named? value).map Script.set
  | "scx" | "scriptextensions" => (Script.named? value).map Script.extendedSet
  | "age" => assignedBy? value
  | "gcb" | "graphemeclusterbreak" => Segmentation.grapheme? value
  | "wb" | "wordbreak" => Segmentation.word? value
  | "sb" | "sentencebreak" => Segmentation.sentence? value
  | _ => none

/-- The decimal digits. -/
def digits : CharSet := Category.set .decimalNumber

/-- White space. -/
def spaces : CharSet := BinaryProperty.set .whiteSpace

/-- The alphabetic characters. -/
def alphabetic : CharSet := BinaryProperty.alphabeticSet

/-- The alphabetic characters and the numbers. -/
def alphanumeric : CharSet := alphabetic ∪ Category.sets Category.numbers

/-- The characters of words. -/
def wordChars : CharSet :=
  alphabetic ∪ Category.sets (.decimalNumber :: .connectorPunctuation :: Category.marks) ∪
    BinaryProperty.set .joinControl

end WmConfig.Unicode
