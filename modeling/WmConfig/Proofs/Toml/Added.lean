import WmConfig.Proofs.Toml.Slots

/-! # A value added to a document

A document without a key of a section, and the same document with the key: apart from the key they
hold the same values (`Adds`), their date forms included (`Slot.exists_adds`). One thing has to be
known of the document without the key: that the section does not stand for a date form, as a table
does that starts with the reserved key. The key could stand before the reserved one. -/

namespace WmConfig.Toml

/-- The second document also has a value at a key of a section. The section may be missing in the
first one. -/
structure Adds (name key : String) (v : Value) (root root' : Table) : Prop where
  others : ∀ k, k ≠ name → root'.get? k = root.get? k
  here : ∃ t : Table, root'.get? name = some (.table (assign key (some v) t)) ∧
    (t.get? key).isSome ∧ (root.get? name = some (.table (assign key none t)) ∨
      root.get? name = none ∧ assign key none t = [])

section Dates
variable {name key : String} {v : Value} {new : Option Value} {t t' : Table}

theorem get?_entriesWithDates : ∀ {t t' : Table}, Value.entriesWithDates? t = some t' → ∀ {k v},
    t.get? k = some v → ∃ v', v.withDates? = some v' ∧ t'.get? k = some v'
  | [], t', h, k, v, hv => by cases hv
  | (k', w) :: t, t', h, k, v, hv => by
    obtain ⟨w', hw, h⟩ := Option.bind_eq_some_iff.mp h
    obtain ⟨rest, hrest, h⟩ := Option.bind_eq_some_iff.mp h
    rw [← Option.some.inj h]
    by_cases hk : k = k'
    · rw [hk, Table.get?, List.lookup_cons_self] at hv ⊢
      exact ⟨w', Option.some.inj hv ▸ hw, rfl⟩
    · rw [Table.get?, lookup_cons_of_ne hk] at hv ⊢
      exact get?_entriesWithDates hrest hv

theorem get?_entriesWithDates_eq_none (h : Value.entriesWithDates? t = some t') {k : String}
    (hk : t.get? k = none) : t'.get? k = none := by
  rw [Table.get?, lookup_eq_none_iff] at hk ⊢
  rwa [keys_entriesWithDates h]

/-- What is read at a key depends on what stands there only. -/
theorem get?_entriesWithDates_congr {t₁ t₂ root₁ root₂ : Table}
    (h₁ : Value.entriesWithDates? t₁ = some root₁) (h₂ : Value.entriesWithDates? t₂ = some root₂)
    {k : String} (hk : t₁.get? k = t₂.get? k) : root₁.get? k = root₂.get? k := by
  cases hget : t₂.get? k with
  | none =>
    rw [get?_entriesWithDates_eq_none h₁ (hk.trans hget), get?_entriesWithDates_eq_none h₂ hget]
  | some w =>
    obtain ⟨w₁, hw₁, hget₁⟩ := get?_entriesWithDates h₁ (hk.trans hget)
    obtain ⟨w₂, hw₂, hget₂⟩ := get?_entriesWithDates h₂ hget
    rw [hget₁, hget₂, ← hw₁, ← hw₂]

theorem exists_entriesWithDates : ∀ {t : Table}, (∀ e ∈ t, ∃ v, e.2.withDates? = some v) →
    ∃ t', Value.entriesWithDates? t = some t'
  | [], _ => ⟨[], rfl⟩
  | (k, v) :: t, h => by
    obtain ⟨⟨v', hv⟩, ht⟩ := List.forall_mem_cons.mp h
    obtain ⟨t', ht'⟩ := exists_entriesWithDates ht
    exact ⟨(k, v') :: t', by rw [Value.entriesWithDates?, hv, ht']; rfl⟩

theorem entriesWithDates?_assign (hnew : ∀ v ∈ new, v.withDates? = some v) :
    ∀ {t t' : Table}, Value.entriesWithDates? t = some t' →
      Value.entriesWithDates? (assign key new t) = some (assign key new t')
  | [], t', h => by rw [← Option.some.inj h]; rfl
  | (k, w) :: t, t', h => by
    obtain ⟨w', hw, h⟩ := Option.bind_eq_some_iff.mp h
    obtain ⟨rest, hrest, h⟩ := Option.bind_eq_some_iff.mp h
    have ih := entriesWithDates?_assign hnew hrest
    rw [← Option.some.inj h, assign_cons, assign_cons]
    split_ifs
    · cases new with
      | none => exact ih
      | some v =>
        change Value.entriesWithDates? ((key, v) :: assign key (some v) t) = _
        rw [Value.entriesWithDates?, hnew v rfl, ih]
        rfl
    · change Value.entriesWithDates? ((k, w) :: assign key new t) = _
      rw [Value.entriesWithDates?, hw, ih]
      rfl

theorem withDates?_of_head (h : (t.map Prod.fst).head? ≠ some reservedDateKey) :
    (Value.table t).withDates? = (Value.entriesWithDates? t).map .table := by
  cases t with
  | nil => rfl
  | cons e t =>
    rw [Value.withDates?, if_neg fun he => h (congrArg some he), Value.entriesWithDates?]
    cases e.2.withDates? with
    | none => rfl
    | some v => cases Value.entriesWithDates? t <;> rfl

theorem withDates?_reserved {v' : Value}
    (h : (Value.table ((reservedDateKey, v) :: t)).withDates? = some v') :
    ∃ d, v' = .datetime d := by
  rw [Value.withDates?, if_pos rfl] at h
  obtain ⟨d, -, rfl⟩ := Option.map_eq_some_iff.mp h
  exact ⟨d, rfl⟩

/-- Where a value was replaced by another, the section is there. -/
theorem Replaced.get?_table {t₁ : Table} (h : Replaced name key (some v) t t₁) :
    ∃ sub : Table, t.get? name = some (.table sub) ∧ (sub.get? key).isSome ∧
      t₁.get? name = some (.table (assign key (some v) sub)) := by
  obtain ⟨sub, hsub, hsome, hhere⟩ := h.here
  refine ⟨sub, hsub, hsome, hhere.resolve_right fun hnone => ?_⟩
  have hkeys := keys_assign key v sub
  rw [hnone.2, List.map_nil, eq_comm, List.map_eq_nil_iff] at hkeys
  rw [hkeys] at hsome
  cases hsome

/-- A document is one with another value, if the section with the value has its date forms. -/
theorem Replaced.exists_withDates {t₁ root₀ : Table} {w w' : Value}
    (h : Replaced name key new t t₁) (hroot₀ : t.withDates? = some root₀)
    (honce : (t₁.map Prod.fst).Nodup) (hget : t₁.get? name = some w)
    (hw : w.withDates? = some w') : ∃ root', t₁.withDates? = some root' := by
  refine exists_entriesWithDates fun e he => ?_
  have hself : t₁.get? e.1 = some e.2 := (lookup_eq_some_iff honce).mpr he
  by_cases hname : e.1 = name
  · rw [hname, hget] at hself
    exact ⟨w', Option.some.inj hself ▸ hw⟩
  · rw [h.others _ hname] at hself
    obtain ⟨v', hv', -⟩ := get?_entriesWithDates hroot₀ hself
    exact ⟨v', hv'⟩

section Documents
variable {t₁ t₂ root₀ root sub : Table} (hkey : key ≠ reservedDateKey)
  (hroot₀ : t.withDates? = some root₀) (hroot : t₂.withDates? = some root)
  (hdate : ∀ d, root.get? name ≠ some (.datetime d))
include hroot hdate

include hkey in
/-- If a section started with the reserved key, then so it would without another key. -/
theorem head?_ne_reserved (hhere : t₂.get? name = some (.table (assign key none sub)) ∨
    t₂.get? name = none ∧ assign key none sub = []) :
    (sub.map Prod.fst).head? ≠ some reservedDateKey := by
  intro hreserved
  obtain ⟨⟨k, w⟩, rest, rfl⟩ : ∃ e rest, sub = e :: rest := by
    cases sub with
    | nil => cases hreserved
    | cons e rest => exact ⟨e, rest, rfl⟩
  obtain rfl : k = reservedDateKey := Option.some.inj hreserved
  rw [assign_cons, if_neg (Ne.symm hkey)] at hhere
  obtain ⟨v', hv', hget⟩ := get?_entriesWithDates hroot (hhere.resolve_right (by simp))
  obtain ⟨d, rfl⟩ := withDates?_reserved hv'
  exact hdate d hget

/-- The section without the key, its date forms included. -/
theorem get?_left_out {sub' : Table} (hsub' : Value.entriesWithDates? sub = some sub')
    (hhere : t₂.get? name = some (.table (assign key none sub)) ∨
      t₂.get? name = none ∧ assign key none sub = []) :
    root.get? name = some (.table (assign key none sub')) ∨
      root.get? name = none ∧ assign key none sub' = [] := by
  have hnone := @entriesWithDates?_assign key none nofun _ _ hsub'
  rcases hhere with hget₂ | ⟨hget₂, hnil⟩
  · obtain ⟨w, hw, hget⟩ := get?_entriesWithDates hroot hget₂
    rcases withDates_table hw with ⟨d, rfl⟩ | ⟨sub₂, hsub₂, rfl⟩
    · exact absurd hget (hdate d)
    · rw [hget, Option.some.inj (hnone.symm.trans hsub₂)]
      exact .inl rfl
  · rw [hnil] at hnone
    exact .inr ⟨get?_entriesWithDates_eq_none hroot hget₂, (Option.some.inj hnone).symm⟩

include hkey hroot₀ in
/-- **A value can be added to a document** without the key, if it would be a document with another
value at the key. -/
theorem exists_adds (hv : v.withDates? = some v) (h₁ : Replaced name key (some v) t t₁)
    (h₂ : Replaced name key none t t₂) (honce : (t₁.map Prod.fst).Nodup) :
    ∃ root', t₁.withDates? = some root' ∧ Adds name key v root root' := by
  obtain ⟨sub, hsub, hsome, hget₁⟩ := h₁.get?_table
  obtain ⟨_, hsub₂, -, hhere⟩ := h₂.here
  obtain rfl : sub = _ := Value.table.inj (Option.some.inj (hsub.symm.trans hsub₂))
  have hhead := head?_ne_reserved hkey hroot hdate hhere
  obtain ⟨_, hdates, -⟩ := get?_entriesWithDates hroot₀ hsub
  rw [withDates?_of_head hhead] at hdates
  obtain ⟨sub', hsub', -⟩ := Option.map_eq_some_iff.mp hdates
  have hassigned : (Value.table (assign key (some v) sub)).withDates? =
      some (.table (assign key (some v) sub')) := by
    rw [withDates?_of_head (by rwa [keys_assign]),
      entriesWithDates?_assign (by rintro _ ⟨⟩; exact hv) hsub']
    rfl
  obtain ⟨root', hroot'⟩ := h₁.exists_withDates hroot₀ honce hget₁ hassigned
  refine ⟨root', hroot', fun k hk => ?_, sub', ?_, ?_, get?_left_out hroot hdate hsub' hhere⟩
  · exact get?_entriesWithDates_congr hroot' hroot ((h₁.others k hk).trans (h₂.others k hk).symm)
  · obtain ⟨w, hw, hget⟩ := get?_entriesWithDates hroot' hget₁
    rw [hget, ← hw, hassigned]
  · obtain ⟨w, hw⟩ := Option.isSome_iff_exists.mp hsome
    obtain ⟨w', -, hw'⟩ := get?_entriesWithDates hsub' hw
    exact Option.isSome_iff_exists.mpr ⟨w', hw'⟩

end Documents

end Dates

/-- **A value in a slot is added** to what the text is without it. -/
theorem Slot.exists_adds (slot : Slot) {name key : String} (hkey : key ≠ reservedDateKey)
    {s s₀ : Sketch} {v : Value} (hs : s.value? = some v) (hv : v.withDates? = some v)
    {text valid without : String} {root₀ root : Table}
    (htext : sketchOf? text = some (slot.fill name key (some s)))
    (hvalid : sketchOf? valid = some (slot.fill name key (some s₀)))
    (hwithout : sketchOf? without = some (slot.fill name key none))
    (hroot₀ : document? valid = some root₀) (hroot : document? without = some root)
    (hdate : ∀ d, root.get? name ≠ some (.datetime d)) :
    ∃ root', document? text = some root' ∧ Adds name key v root root' := by
  obtain ⟨t, ht, hroot₀⟩ := Option.bind_eq_some_iff.mp hroot₀
  have hvalue : (some s).map Sketch.value? = (some v).map some := congrArg some hs
  have hnone : (none : Option Sketch).map Sketch.value? = (none : Option Value).map some := rfl
  obtain ⟨t₁, ht₁, h₁⟩ := slot.exists_parse? hvalid ht htext hvalue
  obtain ⟨t₂, ht₂, h₂⟩ := slot.exists_parse? hvalid ht hwithout hnone
  rw [document?, ht₂] at hroot
  obtain ⟨root', hroot', hadds⟩ := Toml.exists_adds hkey hroot₀ hroot hdate hv h₁ h₂ (by
    cases keysOnce_of_parse ht₁ with
    | table keys => exact keys)
  exact ⟨root', by rw [document?, ht₁]; exact hroot', hadds⟩

end WmConfig.Toml
