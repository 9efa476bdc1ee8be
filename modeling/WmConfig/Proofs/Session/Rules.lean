import Mathlib.Tactic.SplitIfs
import WmConfig.Session.Rule

/-! # Rules with patterns that are not well formed

The two patterns of a rule are read apart from each other (`value_ofSettings`). So a pattern that
is not well formed silences its own side of the rule and nothing else: a rule of which the other
pattern is well formed still finds what that one finds (`patterns_judged_apart`). -/

namespace WmConfig.Session.Rule

/-- Finds no window and no tag. -/
def Idle (r : Rule) : Prop := ∀ name, r.matchesWindow name = false ∧ r.matchesTag name = false

/-! ### The rule of an entry -/

theorem value_pattern (field text : String) :
    (pattern field text).value = Pattern.ofText? text := by
  unfold pattern
  cases Pattern.ofText? text <;> rfl

theorem warnings_pattern (field text : String) :
    (pattern field text).warnings =
      if (Pattern.ofText? text).isSome then [] else [.invalidPattern field text] := by
  unfold pattern
  cases Pattern.ofText? text <;> rfl

theorem value_ofSettings (entry : Settings.Rule) :
    (ofSettings entry).value =
      { name := entry.name
        tags := if entry.tags = "" then none else some entry.tags
        floating := entry.float
        namePattern := Pattern.ofText? entry.name
        tagsPattern := if entry.tags = "" then none else Pattern.ofText? entry.tags } := by
  unfold ofSettings
  by_cases htags : entry.tags = ""
  · simp only [htags, if_true, Reported.value_bind, Reported.value_pure, value_pattern]
  · simp only [htags, if_false, Reported.value_bind, Reported.value_pure, value_pattern]

theorem warnings_ofSettings (entry : Settings.Rule) :
    (ofSettings entry).warnings =
      (if (Pattern.ofText? entry.name).isSome then [] else [.invalidPattern "name" entry.name]) ++
        if entry.tags = "" ∨ (Pattern.ofText? entry.tags).isSome then []
        else [.invalidPattern "tags" entry.tags] := by
  unfold ofSettings
  by_cases htags : entry.tags = ""
  · simp [htags, warnings_pattern]
  · simp [htags, warnings_pattern]

/-- What is reported of rules is that patterns are not well formed. -/
theorem eq_invalidPattern_of_mem {entries : List Settings.Rule} {w : Warning}
    (hw : w ∈ (Reported.map ofSettings entries).warnings) :
    ∃ field text, w = .invalidPattern field text := by
  obtain ⟨entry, -, hw⟩ := List.mem_flatMap.mp hw
  rw [warnings_ofSettings, List.mem_append] at hw
  rcases hw with hw | hw
  · split_ifs at hw
    · cases hw
    · exact ⟨_, _, List.mem_singleton.mp hw⟩
  · split_ifs at hw
    · cases hw
    · exact ⟨_, _, List.mem_singleton.mp hw⟩

theorem matchesWindow_ofSettings (entry : Settings.Rule) (name : String) :
    (ofSettings entry).value.matchesWindow name = true ↔
      ∃ p, Pattern.ofText? entry.name = some p ∧ p.isFoundIn name = true := by
  rw [value_ofSettings, matchesWindow, Option.any_eq_true]

theorem matchesTag_ofSettings (entry : Settings.Rule) (name : String) :
    (ofSettings entry).value.matchesTag name = true ↔
      entry.tags ≠ "" ∧ ∃ p, Pattern.ofText? entry.tags = some p ∧ p.isFoundIn name = true := by
  rw [value_ofSettings, matchesTag, Option.any_eq_true]
  by_cases htags : entry.tags = "" <;> simp [htags]

/-! ### The rules of a list -/

/-- The rules of the entries of a list. -/
abbrev ofEntries (entries : List Settings.Rule) : List Rule :=
  (Reported.map ofSettings entries).value

/-- **A pattern that is not well formed silences its own side of the rule.** Each entry has a rule
at its place, which finds a window iff its first pattern is well formed and does, and a tag iff its
second one is there, is well formed and does. So a rule is idle if neither pattern is left, and no
other rule depends on the entry. -/
theorem patterns_judged_apart (entries : List Settings.Rule) (i : Nat) (entry : Settings.Rule)
    (h : entries[i]? = some entry) :
    ∃ r, (ofEntries entries)[i]? = some r ∧
      (∀ name, r.matchesWindow name = true ↔
        ∃ p, Pattern.ofText? entry.name = some p ∧ p.isFoundIn name = true) ∧
      (∀ name, r.matchesTag name = true ↔
        entry.tags ≠ "" ∧ ∃ p, Pattern.ofText? entry.tags = some p ∧ p.isFoundIn name = true) ∧
      (Pattern.ofText? entry.name = none → (entry.tags = "" ∨ Pattern.ofText? entry.tags = none) →
        r.Idle) ∧
      ∀ (j : Nat) (entry' : Settings.Rule), j ≠ i →
        (ofEntries (entries.set i entry'))[j]? = (ofEntries entries)[j]? := by
  refine ⟨(ofSettings entry).value, ?_, matchesWindow_ofSettings entry,
    matchesTag_ofSettings entry, fun hname htags name => ⟨?_, ?_⟩, fun j entry' hj => ?_⟩
  · rw [ofEntries, Reported.value_map, List.getElem?_map, h, Option.map_some]
  · rw [Bool.eq_false_iff, ne_eq, matchesWindow_ofSettings]
    rintro ⟨p, hp, -⟩
    rw [hname] at hp
    cases hp
  · rw [Bool.eq_false_iff, ne_eq, matchesTag_ofSettings]
    rintro ⟨hne, p, hp, -⟩
    rcases htags with hempty | hnone
    · exact hne hempty
    · rw [hnone] at hp
      cases hp
  · rw [ofEntries, ofEntries, Reported.value_map, Reported.value_map, List.getElem?_map,
      List.getElem?_map, List.getElem?_set_ne hj.symm]

/-- A rule with a parenthesis left open and no tags is idle. -/
theorem patterns_judged_apart_unclosed :
    ∃ r, (ofEntries [{ name := "(" }, { name := "a" }])[0]? = some r ∧ r.Idle := by
  have hpattern : Pattern.ofText? "(" = none := by decide +kernel
  obtain ⟨r, hr, -, -, hidle, -⟩ := patterns_judged_apart [{ name := "(" }, { name := "a" }] 0 _ rfl
  exact ⟨r, hr, hidle hpattern (Or.inl rfl)⟩

/-- A rule is not idle as a whole when one of its patterns is not well formed: the other one is
still searched for. -/
theorem well_formed_side_still_finds :
    (Pattern.ofText? "(" = none ∧
        (ofSettings { name := "(", tags := "2" }).value.matchesTag "2" = true) ∧
      Pattern.ofText? "[" = none ∧
        (ofSettings { name := "a", tags := "[" }).value.matchesWindow "a" = true := by
  refine ⟨⟨?_, ?_⟩, ?_, ?_⟩
  · decide +kernel
  · decide +kernel
  · decide +kernel
  · decide +kernel

end WmConfig.Session.Rule
