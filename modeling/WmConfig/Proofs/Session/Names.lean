import Mathlib.Algebra.Order.Ring.Nat
import WmConfig.Session.KeyBinding
import WmConfig.Session.Layout

/-! # What names stand for

A layout has a symbol and an arrangement iff its name is the name of an arrangement, which is then
the one it has (`Layout.resolved_of_mem`). A list of modifiers stands for a mask of eight bits
(`modifierListMask_lt`), the main modifier for one of these bits (`mainModifier_eq_bit`). -/

namespace WmConfig

/-! ### Layouts -/

theorem Arrangement.ofName?_eq_some_iff {name : String} {a : Arrangement} :
    Arrangement.ofName? name = some a ↔ a.name = name := by
  constructor
  · intro h
    simpa using List.find?_some h
  · rintro rfl
    cases a <;> rfl

namespace Session.Layout

/-- The symbol and the arrangement are those of the name. -/
structure Resolved (l : Layout) : Prop where
  symbol_iff : l.symbol.isSome ↔ l.arrangement.isSome
  arrangement_iff : l.arrangement.isSome ↔ ∃ a : Arrangement, a.name = l.name
  name_eq : ∀ a, l.arrangement = some a → a.name = l.name

theorem resolved_ofSettings (entry : Settings.Layout × Nat) : (ofSettings entry).value.Resolved := by
  unfold ofSettings
  cases h : Arrangement.ofName? entry.1.title with
  | some a =>
    have hname := Arrangement.ofName?_eq_some_iff.mp h
    refine ⟨Iff.rfl, iff_of_true rfl ⟨a, hname⟩, fun b hb => ?_⟩
    rwa [← Option.some.inj hb]
  | none =>
    refine ⟨Iff.rfl, iff_of_false Bool.false_ne_true ?_, fun b hb => by cases hb⟩
    rintro ⟨a, ha⟩
    rw [Arrangement.ofName?_eq_some_iff.mpr ha] at h
    cases h

theorem name_ofSettings (entry : Settings.Layout × Nat) :
    (ofSettings entry).value.name = entry.1.title := by
  unfold ofSettings
  cases Arrangement.ofName? entry.1.title <;> rfl

theorem isUsable_ofSettings (entry : Settings.Layout × Nat) :
    (ofSettings entry).value.isUsable = true ↔ ∃ a : Arrangement, a.name = entry.1.title := by
  rw [← name_ofSettings]
  exact (resolved_ofSettings entry).arrangement_iff

theorem resolved_of_mem {entries : List Settings.Layout} {l : Layout}
    (h : l ∈ (ofEntries entries).value) : l.Resolved := by
  rw [ofEntries, Reported.value_map] at h
  obtain ⟨entry, -, rfl⟩ := List.mem_map.mp h
  exact resolved_ofSettings entry

/-- What is reported of layouts is that they are not known. -/
theorem eq_unknownLayout_of_mem {entries : List Settings.Layout} {w : Warning}
    (hw : w ∈ (ofEntries entries).warnings) : ∃ index name, w = .unknownLayout index name := by
  obtain ⟨entry, -, hw⟩ := List.mem_flatMap.mp hw
  unfold ofSettings at hw
  cases hname : Arrangement.ofName? entry.1.title with
  | some a => simp [hname] at hw
  | none =>
    rw [hname] at hw
    exact ⟨_, _, List.mem_singleton.mp hw⟩

end Session.Layout

/-! ### Modifiers -/

theorem Modifier.toNat_bit (m : Modifier) : m.bit.toNat = 2 ^ m.slot := by
  cases m <;> rfl

theorem Modifier.slot_lt (m : Modifier) : m.slot < 8 := by
  cases m <;> decide

/-- A name stands for no modifier or for the bit of one. -/
theorem modifierMask_eq (name : String) :
    modifierMask name = 0 ∨ ∃ m : Modifier, modifierMask name = m.bit := by
  unfold modifierMask
  cases Modifier.ofName? name with
  | none => exact Or.inl rfl
  | some m => exact Or.inr ⟨m, rfl⟩

theorem modifierMask_lt (name : String) : (modifierMask name).toNat < 2 ^ 8 := by
  rcases modifierMask_eq name with h | ⟨m, h⟩
  · rw [h]
    decide
  · rw [h, Modifier.toNat_bit]
    exact Nat.pow_lt_pow_right (by decide) m.slot_lt

theorem modifierListMask_lt (names : List String) : (modifierListMask names).toNat < 2 ^ 8 := by
  refine List.foldlRecOn names _ (motive := fun mask : UInt16 => mask.toNat < 2 ^ 8) (by decide) ?_
  intro mask hmask name _
  rw [UInt16.toNat_or]
  exact Nat.or_lt_two_pow hmask (modifierMask_lt name)

theorem Session.mainModifier_eq_bit (name : String) :
    ∃ m : Modifier, Session.mainModifier name = m.bit := by
  unfold Session.mainModifier
  by_cases hzero : modifierMask name = 0
  · exact ⟨.mod4, if_pos hzero⟩
  · obtain ⟨m, hm⟩ := (modifierMask_eq name).resolve_left hzero
    exact ⟨m, by rw [if_neg hzero, hm]⟩

end WmConfig
