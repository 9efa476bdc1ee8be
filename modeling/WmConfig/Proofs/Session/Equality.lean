import Mathlib.Data.List.Forall2
import WmConfig.Proofs.Session.Course
import WmConfig.Proofs.Session.Rules

/-! # Equal rules

Rules are compared by their texts and not by the patterns that these were read as. Since a rule is
made of its entry alone, that is enough: rules of a session are equal iff their entries agree, and
equal rules find the same windows and tags (`rules_equal_iff`). -/

namespace WmConfig

/-! ### Empty patterns -/

/-- The empty pattern is found everywhere. -/
theorem Pattern.ofText?_empty : Pattern.ofText? "" = some ⟨.empty⟩ := rfl

theorem Pattern.isFoundIn_empty (text : String) : Pattern.isFoundIn ⟨.empty⟩ text = true := by
  unfold Pattern.isFoundIn Regex.isFoundIn
  cases text.toList <;> rfl

namespace Session.Rule

/-! ### The rule of an entry -/

/-- **The rule is made of the entry**: it has its texts, with no tag pattern for an empty one; such a
rule finds no tag, and an empty window pattern finds every window. -/
structure MadeOf (entry : Settings.Rule) (r : Rule) : Prop where
  name_eq : r.name = entry.name
  tags_eq : ∀ t, r.tags = some t ↔ t = entry.tags ∧ t ≠ ""
  floating_eq : r.floating = entry.float
  no_tag : entry.tags = "" → ∀ name, r.matchesTag name = false
  any_window : entry.name = "" → entry.tags = "" ∨ (Pattern.ofText? entry.tags).isSome →
    ∀ name, r.matchesWindow name = true

variable {entry entry' : Settings.Rule}

theorem madeOf_ofSettings (entry : Settings.Rule) : MadeOf entry (ofSettings entry).value where
  name_eq := by rw [value_ofSettings]
  tags_eq t := by
    rw [value_ofSettings]
    by_cases htags : entry.tags = ""
    · rw [if_pos htags, htags]
      exact iff_of_false nofun fun h => h.2 h.1
    · rw [if_neg htags, Option.some.injEq, eq_comm]
      exact ⟨fun h => ⟨h, h ▸ htags⟩, And.left⟩
  floating_eq := by rw [value_ofSettings]
  no_tag htags name := by
    rw [Bool.eq_false_iff, ne_eq, matchesTag_ofSettings]
    exact fun h => h.1 htags
  any_window hname _ name := by
    rw [matchesWindow_ofSettings, hname]
    exact ⟨_, Pattern.ofText?_empty, Pattern.isFoundIn_empty name⟩

/-- An empty tag pattern counts as none and as no other one. -/
theorem beq_ofSettings_iff :
    ((ofSettings entry).value == (ofSettings entry').value) = true ↔
      entry.name = entry'.name ∧ entry.tags = entry'.tags ∧ entry.float = entry'.float := by
  have htags : ((if entry.tags = "" then none else some entry.tags) =
      if entry'.tags = "" then none else some entry'.tags) ↔ entry.tags = entry'.tags := by
    by_cases h : entry.tags = "" <;> by_cases h' : entry'.tags = ""
    · simp [h, h']
    · simp [h, Ne.symm h', h']
    · simp [h, h']
    · simp [h, h']
  have hbeq : ∀ r r' : Rule, (r == r') = true ↔
      r.name = r'.name ∧ r.tags = r'.tags ∧ r.floating = r'.floating := by
    intro r r'
    change (r.name == r'.name && r.tags == r'.tags && r.floating == r'.floating) = true ↔ _
    simp only [Bool.and_eq_true, beq_iff_eq, and_assoc]
  rw [hbeq, value_ofSettings, value_ofSettings]
  exact and_congr_right' (and_congr_left' htags)

/-- **Equal rules find the same.** The patterns are not compared, but they are those of the texts. -/
theorem matches_eq_of_beq
    (h : ((ofSettings entry).value == (ofSettings entry').value) = true) (name : String) :
    (ofSettings entry).value.matchesWindow name = (ofSettings entry').value.matchesWindow name ∧
      (ofSettings entry).value.matchesTag name = (ofSettings entry').value.matchesTag name := by
  obtain ⟨hname, htags, -⟩ := beq_ofSettings_iff.mp h
  constructor
  · rw [Bool.eq_iff_iff, matchesWindow_ofSettings, matchesWindow_ofSettings, hname]
  · rw [Bool.eq_iff_iff, matchesTag_ofSettings, matchesTag_ofSettings, htags]

end Session.Rule

namespace Loading

open Session

variable {σ : Type} {p : Platform σ} {s : Settings} {r : Session}

/-! ### The rules of a session -/

theorem rules_of_resolve {prog : Progress σ} (h : ((resolve p s).runFrom prog).1 = .ok r) :
    r.rules = s.rules.map fun entry => (Rule.ofSettings entry).value := by
  obtain ⟨font, colors, state, ws, -, -, -, rfl⟩ := resolve_eq_ok_iff.mp h
  exact Reported.value_map ..

/-- No rule keeps a session from coming about. -/
theorem resolve_with_rules {prog : Progress σ} (h : ((resolve p s).runFrom prog).1 = .ok r)
    (entries : List Settings.Rule) :
    ∃ r', ((resolve p { s with rules := entries }).runFrom prog).1 = .ok r' := by
  obtain ⟨font, colors, state, ws, hacquire, hstart, htags, -⟩ := resolve_eq_ok_iff.mp h
  exact ⟨_, resolve_eq_ok_iff.mpr ⟨font, colors, state, ws, hacquire, hstart, htags, rfl⟩⟩

/-- **Rules are equal iff their entries agree.** A session has one rule for each entry, in their order,
whatever the entries are. Two of its rules are equal iff their entries have the same texts, and
equal rules find the same windows and the same tags. -/
theorem rules_equal_iff (p : Platform σ) (s : Settings) (state : σ) (r : Session)
    (h : ((resolve p s).start state).1 = .ok r) :
    (∀ entries, ∃ r', ((resolve p { s with rules := entries }).start state).1 = .ok r') ∧
    List.Forall₂ Rule.MadeOf s.rules r.rules ∧
    ∀ (i j : ℕ) (entry entry' : Settings.Rule) (rule rule' : Rule),
      s.rules[i]? = some entry → r.rules[i]? = some rule →
      s.rules[j]? = some entry' → r.rules[j]? = some rule' →
        ((rule == rule') = true ↔
          entry.name = entry'.name ∧ entry.tags = entry'.tags ∧ entry.float = entry'.float) ∧
        ((rule == rule') = true → ∀ name,
          rule.matchesWindow name = rule'.matchesWindow name ∧
            rule.matchesTag name = rule'.matchesTag name) := by
  rw [start_eq] at h
  have hrules := rules_of_resolve h
  refine ⟨resolve_with_rules h, ?_, fun i j entry entry' rule rule' hi hrule hj hrule' => ?_⟩
  · rw [hrules, List.forall₂_map_right_iff]
    exact List.forall₂_same.mpr fun entry _ => Rule.madeOf_ofSettings entry
  · rw [hrules, List.getElem?_map, hi] at hrule
    rw [hrules, List.getElem?_map, hj] at hrule'
    obtain rfl := Option.some.inj hrule
    obtain rfl := Option.some.inj hrule'
    exact ⟨Rule.beq_ofSettings_iff, Rule.matches_eq_of_beq⟩

/-- Two rules with the same pattern that is not well formed, and one that differs from them in its
tag pattern only. -/
theorem rules_equal_iff_invalid :
    let p : Platform Unit :=
      { screen := 0
        physScreen := 0
        openFont := fun d _ => (.ok d.loaded, ())
        allocColor := fun _ _ => (.ok ⟨1, ⟨0, 0, 0⟩⟩, ())
        numLockMask := fun _ => (.ok 16, ()) }
    let s : Settings :=
      { tags := [{ title := "1" }]
        layouts := { layout := [{ title := "tile" }] }
        rules := [{ name := "(", tags := "1" }, { name := "(", tags := "1" }, { name := "(" }] }
    ∃ r rule₀ rule₁ rule₂, ((resolve p s).start ()).1 = .ok r ∧
      r.rules = [rule₀, rule₁, rule₂] ∧ (rule₀ == rule₁) = true ∧ (rule₀ == rule₂) = false ∧
        ∀ name, rule₀.matchesTag name = rule₁.matchesTag name := by
  intro p s
  have hload : ∃ r, ((resolve p s).start ()).1 = .ok r :=
    ⟨_, resolve_eq_ok_iff.mpr ⟨_, _, _, _, rfl, rfl, nofun, rfl⟩⟩
  obtain ⟨r, hr⟩ := hload
  obtain ⟨-, hmade, hpairs⟩ := rules_equal_iff p s () r hr
  obtain ⟨rule₀, rule₁, rule₂, hrules⟩ := List.length_eq_three.mp hmade.length_eq.symm
  have hlast := (hpairs 0 2 _ _ rule₀ rule₂ rfl (by rw [hrules]; rfl) rfl (by rw [hrules]; rfl)).1
  obtain ⟨hfirst, hfind⟩ :=
    hpairs 0 1 _ _ rule₀ rule₁ rfl (by rw [hrules]; rfl) rfl (by rw [hrules]; rfl)
  have hequal := hfirst.mpr ⟨rfl, rfl, rfl⟩
  refine ⟨r, rule₀, rule₁, rule₂, hr, hrules, hequal, ?_, fun name => (hfind hequal name).2⟩
  rw [Bool.eq_false_iff, ne_eq, hlast]
  decide

end Loading

end WmConfig
