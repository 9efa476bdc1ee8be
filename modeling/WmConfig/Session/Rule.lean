import WmConfig.Pattern.Basic
import WmConfig.Settings.Basic
import WmConfig.Warning

/-! # Window rules

A rule tells which windows float and under which tags windows are put. It finds windows and tags by
patterns; a pattern that is not well formed finds nothing, and neither does an empty tag pattern. -/

namespace WmConfig.Session

/-- A rule. -/
structure Rule where
  /-- The text of the pattern of windows. -/
  name : String
  /-- The text of the pattern of tags, unless it is empty. -/
  tags : Option String
  /-- Whether the windows float. -/
  floating : Bool
  /-- The pattern of windows, if it is well formed. -/
  namePattern : Option Pattern
  /-- The pattern of tags, if it is well formed. -/
  tagsPattern : Option Pattern

namespace Rule

/-- Rules are the same if their texts are. -/
instance : BEq Rule where
  beq r s := r.name == s.name && r.tags == s.tags && r.floating == s.floating

/-- Whether the rule is for a window with this name. -/
def matchesWindow (r : Rule) (name : String) : Bool := r.namePattern.any (·.isFoundIn name)

/-- Whether the rule puts windows under a tag with this name. -/
def matchesTag (r : Rule) (name : String) : Bool := r.tagsPattern.any (·.isFoundIn name)

/-- The pattern that a field holds. -/
def pattern (field text : String) : Reported (Option Pattern) :=
  match Pattern.ofText? text with
  | some p => pure (some p)
  | none => ⟨none, [.invalidPattern field text]⟩

/-- The rule of an entry. -/
def ofSettings (entry : Settings.Rule) : Reported Rule := do
  let tags := if entry.tags = "" then none else some entry.tags
  let namePattern ← pattern "name" entry.name
  let tagsPattern ← match tags with
    | some text => pattern "tags" text
    | none => pure none
  return { name := entry.name, tags, floating := entry.float, namePattern, tagsPattern }

end Rule

end WmConfig.Session
