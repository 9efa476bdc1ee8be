import WmConfig.Proofs.Pattern.Reading
import WmConfig.Proofs.Session.Rules

/-! # What rules find

A rule whose pattern is written as a plain expression finds a window or a tag iff the expression
describes a piece of its name (`rules_find_described`). -/

namespace WmConfig

open Pattern

/-- A pattern is well formed iff it can be read and stays within the limits. -/
theorem Pattern.ofText?_isSome_iff {text : String} {n : Syntax.Node}
    (h : Syntax.read? text.toList = some n) :
    (Pattern.ofText? text).isSome = true ↔ n.height ≤ Syntax.maxHeight ∧ n.regex.fits = true := by
  unfold Pattern.ofText?
  rw [h]
  by_cases hlimits : n.height ≤ Syntax.maxHeight ∧ n.regex.fits = true <;> simp [hlimits]

/-- A pattern that is written as a plain expression finds the pieces that it describes. -/
theorem Pattern.isFoundIn_iff_of_spells {e : Plain} {text : String} {p : Pattern}
    (h : Plain.Spells .choice e text.toList) (hp : Pattern.ofText? text = some p) (name : String) :
    p.isFoundIn name = true ↔ e.FoundIn name := by
  obtain ⟨n, hn, hpieces⟩ := Syntax.read?_spells h
  unfold Pattern.ofText? at hp
  rw [hn] at hp
  obtain rfl : (⟨n.regex⟩ : Pattern) = p := by
    by_cases hlimits : n.height ≤ Syntax.maxHeight ∧ n.regex.fits = true
    · simpa [hlimits] using hp
    · simp [hlimits] at hp
  unfold Pattern.isFoundIn Plain.FoundIn
  rw [Regex.isFoundIn_iff, hpieces]

namespace Session.Rule

/-- **Rules find the pieces that their patterns describe.** Every plain expression can be written,
and however it is written it is well formed, up to the limits on nesting and size. Within these, a
rule with it as its first pattern finds the windows, and one with it as its second pattern the tags,
in whose names it describes some piece. -/
theorem rules_find_described (e : Plain) :
    Plain.Spells .choice e e.form ∧
      ∀ text : String, Plain.Spells .choice e text.toList →
        (∃ n, Syntax.read? text.toList = some n ∧ ((Pattern.ofText? text).isSome = true ↔
          n.height ≤ Syntax.maxHeight ∧ n.regex.fits = true)) ∧
        ((Pattern.ofText? text).isSome = true →
          ∀ (entries : List Settings.Rule) (i : ℕ) (entry : Settings.Rule),
            entries[i]? = some entry → ∃ r, (ofEntries entries)[i]? = some r ∧
              (entry.name = text → ∀ name, r.matchesWindow name = true ↔ e.FoundIn name) ∧
              (entry.tags = text → text ≠ "" →
                ∀ name, r.matchesTag name = true ↔ e.FoundIn name)) := by
  refine ⟨e.spells_form.weaken (Nat.zero_le _), fun text h =>
    ⟨?_, fun hsome entries i entry hentry => ?_⟩⟩
  · obtain ⟨n, hn, -⟩ := Syntax.read?_spells h
    exact ⟨n, hn, Pattern.ofText?_isSome_iff hn⟩
  obtain ⟨p, hp⟩ := Option.isSome_iff_exists.mp hsome
  have hfound := Pattern.isFoundIn_iff_of_spells h hp
  refine ⟨(ofSettings entry).value, ?_, fun hname name => ?_, fun htags hne name => ?_⟩
  · rw [ofEntries, Reported.value_map, List.getElem?_map, hentry, Option.map_some]
  · rw [matchesWindow_ofSettings, hname, hp, ← hfound]
    simp
  · rw [matchesTag_ofSettings, htags, hp, ← hfound]
    simp [hne]

/-- A rule with a repetition of what may be empty finds the windows whose names have no other
characters. -/
theorem rules_find_described_nested :
    ∃ r, (ofEntries [{ name := "^(?:a?)*$" }])[0]? = some r ∧ r.matchesWindow "aa" = true := by
  have hpattern : (Pattern.ofText? "^(?:a?)*$").isSome = true := by decide +kernel
  have hspells : Plain.Spells .choice (.concat .start (.concat (.star (.optional (.char 'a')))
      .finish)) "^(?:a?)*$".toList :=
    .row (.concat Plain.Spells.start.atom.repetition (.concat
      (Plain.Spells.optional (.char (by decide))).repetition.row.group.atom.star.repetition
        Plain.Spells.finish.atom.repetition))
  obtain ⟨r, hr, hwindow, -⟩ := ((rules_find_described _).2 _ hspells).2 hpattern
    [{ name := "^(?:a?)*$" }] 0 _ rfl
  have ha : ∀ before after, Plain.Matches (.optional (.char 'a')) before ['a'] after :=
    fun _ _ => .present .char
  have hrow : Plain.Matches _ [] ([] ++ (['a', 'a'] ++ [])) [] :=
    .concat .start (.concat (.starCons (ha _ _) (.starCons (ha _ _) .starNil)) .finish)
  exact ⟨r, hr, (hwindow rfl "aa").mpr ⟨[], ['a', 'a'], [], rfl, hrow⟩⟩

end Session.Rule

end WmConfig
