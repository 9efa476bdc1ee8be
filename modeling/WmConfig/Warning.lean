import WmConfig.Number.Binary

/-! # Warnings

What is reported while a configuration is read and resolved. A warning is a cause with its data;
the text shown and the names of the data are given here, once for all of them. -/

namespace WmConfig

/-- Something that was passed over or replaced. -/
inductive Warning where
  /-- The file cannot be read. -/
  | unreadable
  /-- The document has a fault. -/
  | malformed
  /-- The section is no table but a value of the given kind. -/
  | sectionNotTable (name found : String)
  /-- No part of the section can be read. -/
  | sectionInvalid (name : String)
  /-- The entry is no table but a value of the given kind. -/
  | entryNotTable (path : String) (index : Nat) (found : String)
  /-- The entry has no title. -/
  | entryUntitled (path : String) (index : Nat)
  /-- No part of the entry can be read. -/
  | entryInvalid (path : String) (index : Nat)
  /-- The value does not fit the field. -/
  | fieldInvalid (path field : String)
  /-- The opacity is out of range. -/
  | opacityClamped (given clamped : Int)
  /-- The share of the master area is out of range. -/
  | mwfactReplaced (given used : Binary64)
  /-- The layout is not known. -/
  | unknownLayout (index : Nat) (name : String)
  /-- The pattern is not well formed. -/
  | invalidPattern (field pattern : String)
  /-- The modifier map cannot be read. -/
  | numLockUnavailable
  /-- The command is not known. -/
  | unknownCommand (command key : String)
  /-- The key is not known. -/
  | unknownKey (key command : String)
deriving DecidableEq

namespace Warning

/-- The data of a warning. -/
inductive Detail where
  /-- A text. -/
  | text (s : String)
  /-- A whole number. -/
  | number (n : Int)
  /-- A floating-point number. -/
  | ratio (x : Binary64)
deriving DecidableEq

/-- The text shown. -/
def message : Warning → String
  | unreadable => "Cannot read configuration file, using defaults"
  | malformed => "error parsing configuration file"
  | sectionNotTable .. => "Section is not a table, using defaults"
  | sectionInvalid .. => "Invalid section in configuration file, using defaults"
  | entryNotTable .. => "Entry is not a table, skipped"
  | entryUntitled .. => "Entry without a title, skipped"
  | entryInvalid .. => "Invalid entry, skipped"
  | fieldInvalid .. => "Invalid value in configuration file, using default"
  | opacityClamped .. => "opacity_unfocused out of range, clamping"
  | mwfactReplaced .. => "mwfact out of range, using default"
  | unknownLayout .. => "unknown layout in configuration file"
  | invalidPattern .. => "Invalid rule pattern, rule ignored"
  | numLockUnavailable => "Cannot query modifier mapping, numlock not tracked"
  | unknownCommand .. => "unknown command in key binding"
  | unknownKey .. => "unknown key name in key binding"

/-- The data shown, each under its name. -/
def details : Warning → List (String × Detail)
  | unreadable => []
  | malformed => []
  | sectionNotTable name found => [("section", .text name), ("found", .text found)]
  | sectionInvalid name => [("section", .text name)]
  | entryNotTable path index found =>
    [("section", .text path), ("index", .number index), ("found", .text found)]
  | entryUntitled path index => [("section", .text path), ("index", .number index)]
  | entryInvalid path index => [("section", .text path), ("index", .number index)]
  | fieldInvalid path field => [("section", .text path), ("field", .text field)]
  | opacityClamped given clamped =>
    [("opacity_unfocused", .number given), ("clamped", .number clamped)]
  | mwfactReplaced given used => [("mwfact", .ratio given), ("using", .ratio used)]
  | unknownLayout index name => [("index", .number index), ("layout", .text name)]
  | invalidPattern field pattern => [("field", .text field), ("pattern", .text pattern)]
  | numLockUnavailable => []
  | unknownCommand command key => [("command", .text command), ("key", .text key)]
  | unknownKey key command => [("key", .text key), ("command", .text command)]

end Warning

/-- A result together with the warnings that were raised on the way, in order. -/
structure Reported (α : Type) where
  /-- The result. -/
  value : α
  /-- The warnings. -/
  warnings : List Warning := []
deriving DecidableEq

namespace Reported

variable {α β : Type}

instance : Monad Reported where
  pure a := ⟨a, []⟩
  bind x f := ⟨(f x.value).value, x.warnings ++ (f x.value).warnings⟩

/-- Warns if there is something to warn of. -/
def warnIf (p : Bool) (w : Warning) : Reported Unit := ⟨(), if p then [w] else []⟩

/-- The results for the members of a list; those without a result are left out. -/
def filterMap (f : α → Reported (Option β)) (l : List α) : Reported (List β) :=
  ⟨l.filterMap fun a => (f a).value, l.flatMap fun a => (f a).warnings⟩

/-- The results for the members of a list. -/
def map (f : α → Reported β) (l : List α) : Reported (List β) :=
  ⟨l.map fun a => (f a).value, l.flatMap fun a => (f a).warnings⟩

@[simp] theorem value_pure (a : α) : (pure a : Reported α).value = a := rfl

@[simp] theorem warnings_pure (a : α) : (pure a : Reported α).warnings = [] := rfl

@[simp] theorem value_bind (x : Reported α) (f : α → Reported β) :
    (x >>= f).value = (f x.value).value := rfl

@[simp] theorem warnings_bind (x : Reported α) (f : α → Reported β) :
    (x >>= f).warnings = x.warnings ++ (f x.value).warnings := rfl

@[simp] theorem value_filterMap (f : α → Reported (Option β)) (l : List α) :
    (filterMap f l).value = l.filterMap fun a => (f a).value := rfl

@[simp] theorem warnings_filterMap (f : α → Reported (Option β)) (l : List α) :
    (filterMap f l).warnings = l.flatMap fun a => (f a).warnings := rfl

@[simp] theorem value_map (f : α → Reported β) (l : List α) :
    (map f l).value = l.map fun a => (f a).value := rfl

@[simp] theorem warnings_map (f : α → Reported β) (l : List α) :
    (map f l).warnings = l.flatMap fun a => (f a).warnings := rfl

end Reported

end WmConfig
