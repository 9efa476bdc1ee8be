import WmConfig.Proofs.Font.Properties
import WmConfig.Proofs.Number.Order

/-! # Sizes that can be drawn

A size can be drawn if it is a finite number above zero. The size of a head is above zero, so it fails
only by being infinite. The size of a property is taken as it is written, and so it may be zero, below
zero or no number at all (`properties_set_unusable_sizes`): a descriptor has a size that can be drawn
iff the text that decides its size has one (`size_isUsable_iff`). -/

namespace WmConfig

/-! ### Numbers above zero -/

theorem Binary.pos_iff (x : Binary32) :
    (∃ q, x.toRat? = some q ∧ 0 < q) ↔ (zero false).lt x = true ∧ x ≠ .infinity false := by
  have hzero : (zero false : Binary32) = .finite false 0 (-149) (by decide) := by decide
  rw [hzero]
  cases x with
  | nan => simp [lt, toRat?]
  | infinity negative => cases negative <;> simp [lt, toRat?]
  | finite negative m e h =>
    rw [lt_finite_iff]
    simp [toRat?]

namespace FontSize

/-- The number of a size, whatever its unit is. -/
def number : FontSize → Binary32
  | points x => x
  | pixels x => x

/-- A size that can be drawn: a finite number above zero. -/
def IsUsable (s : FontSize) : Prop := ∃ q, s.number.toRat? = some q ∧ 0 < q

theorem isUsable_iff (s : FontSize) :
    s.IsUsable ↔ (Binary.zero false).lt s.number = true ∧ s.number ≠ .infinity false :=
  Binary.pos_iff s.number

instance (s : FontSize) : Decidable s.IsUsable := decidable_of_iff _ s.isUsable_iff.symm

end FontSize

namespace FontDescriptor

/-! ### The size of a head -/

theorem isUsable_defaultSize : defaultSize.IsUsable := by decide +kernel

/-- The size of a head can be drawn unless it is infinite. -/
theorem isUsable_splitSize_iff (head : List Char) :
    (splitSize head).2.IsUsable ↔ ∀ families size, head = families ++ '-' :: size → '-' ∉ size →
      sizeOf? size ≠ some (.infinity false) := by
  have hpos : (Binary.zero false).lt (.infinity false : Binary32) = true := by decide
  rcases splitSize_cases head with ⟨families, size, x, rfl, hsize, hx, hsplit⟩ | ⟨hunsized, hsplit⟩
  · rw [hsplit, FontSize.isUsable_iff]
    constructor
    · rintro ⟨-, hfinite⟩ families' size' hhead hsize' hinfinite
      -- There is one last hyphen only, so the two sizes are the same.
      obtain ⟨-, rfl⟩ := eq_of_last_cut hhead hsize hsize'
      exact hfinite (Option.some.inj (hx.1.symm.trans hinfinite))
    · intro hfinite
      refine ⟨hx.2, fun hinfinite => hfinite families size rfl hsize ?_⟩
      rw [hx.1]
      exact congrArg some hinfinite
  · rw [hsplit]
    refine iff_of_true isUsable_defaultSize fun families size hhead hsize hinfinite => ?_
    exact hunsized families size _ hhead hsize ⟨hinfinite, hpos⟩

/-! ### The size of a descriptor -/

/-- **The size can be drawn iff it is written so**: the last property that sets the size has to give
a finite number above zero; without such a property only an infinite number behind the last hyphen of
the head stands in the way. -/
theorem size_isUsable_iff (raw : String) : ∃ head properties,
    raw = extended head properties ∧ ':' ∉ head.toList ∧ (∀ p ∈ properties, ':' ∉ p) ∧
      ((parse raw).size.IsUsable ↔
        (∀ x, SetLast .size properties x → x.IsUsable) ∧
        (SetNone .size properties → ∀ families size, head.toList = families ++ '-' :: size →
          '-' ∉ size → sizeOf? size ≠ some (.infinity false))) := by
  obtain ⟨head, properties, rfl, hhead, hproperties⟩ := exists_extended raw
  refine ⟨head, properties, rfl, hhead, hproperties, ?_⟩
  have hsize : (parse (extended head properties)).size =
      (properties.foldl applyProperty (parse head)).size := by rw [parse_extended hproperties]
  rw [hsize]
  rcases setNone_or_setLast .size properties with hnone | ⟨x, hx⟩
  · rw [size_foldl_of_setNone hnone, parse_of_colon_notMem hhead]
    have hlast : ∀ x, ¬ SetLast .size properties x := fun x hx => hx.not_setNone hnone
    simp only [hnone, forall_const, hlast, false_implies, implies_true, true_and]
    exact isUsable_splitSize_iff head.toList
  · rw [size_foldl_of_setLast hx]
    refine ⟨fun h => ⟨fun y hy => ?_, fun hnone => absurd hnone hx.not_setNone⟩, fun h => h.1 x hx⟩
    have hxy := (size_foldl_of_setLast hx (parse head)).symm.trans (size_foldl_of_setLast hy _)
    rwa [← hxy]

/-- **Sizes that cannot be drawn.** A property takes zero, what is below zero and what is no number; of
these a head takes none. Both take infinity. -/
theorem properties_set_unusable_sizes :
    (∀ raw ∈ ["mono:size=0", "mono:pixelsize=-3", "mono:size=nan", "mono:size=inf", "mono-inf"],
      ¬ (parse raw).size.IsUsable) ∧
    ∀ raw ∈ ["mono-0", "mono-nan"], (parse raw).size.IsUsable := by
  decide +kernel

end FontDescriptor

end WmConfig
