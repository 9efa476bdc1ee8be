import WmConfig.Proofs.Toml.Keys
import WmConfig.Settings.Read

/-! # Reading field by field

A decoder of a section or an entry looks at some fields, and accepts a table if each of them, where
the table has it, holds a value that fits. Such a decoder is described by its fields and by what
it makes of a table of which it takes what it can (`Fieldwise`).

* `Fieldwise.lenient_value`: reading leniently gives just that, for every table. Fields that fit
  alone fit together, so nothing is ever lost beyond the fields that do not fit.
* `Fieldwise.warnings_lenient_eq_nil`: nothing is reported iff every field fits. -/

namespace WmConfig.Settings

open Toml

/-- A field: its key, and which values it takes. -/
structure Field where
  /-- The key. -/
  key : String
  /-- Whether a value fits. -/
  fits : Value → Bool

/-- The field that is read by `read?`. -/
def Field.of {α : Type} (key : String) (read? : Value → Option α) : Field :=
  ⟨key, fun v => (read? v).isSome⟩

/-- The table does not have the field, or has it with a value that fits. -/
def Field.Fits (f : Field) (t : Table) : Prop := ∀ v, t.get? f.key = some v → f.fits v = true

/-- What a field is read as, or its default if it is missing or its value does not fit. -/
def fieldOr {α : Type} (t : Table) (key : String) (read? : Value → Option α) (default : α) : α :=
  ((t.get? key).bind read?).getD default

/-- A decoder that accepts a table iff it has the required keys and all its fields fit; `best` is
what it makes of the fields that fit. -/
structure Fieldwise {α : Type} (decode? : Table → Option α) (required : List String)
    (fields : List Field) (best : Table → α) : Prop where
  /-- The fields have different keys. -/
  keys : (fields.map Field.key).Nodup
  /-- When a table is accepted, and as what. -/
  decode_eq_some_iff : ∀ t a, decode? t = some a ↔
    (∀ k ∈ required, (t.get? k).isSome) ∧ (∀ f ∈ fields, f.Fits t) ∧ a = best t
  /-- Values that do not fit make no difference. -/
  best_congr : ∀ t t',
    (∀ f ∈ fields, (t.get? f.key).filter f.fits = (t'.get? f.key).filter f.fits) →
      best t = best t'

/-! ### One field -/

theorem Field.fits_iff_filter {f : Field} {t : Table} :
    f.Fits t ↔ (t.get? f.key).filter f.fits = t.get? f.key := by
  unfold Field.Fits
  cases t.get? f.key <;> simp [Option.filter]

theorem field?_eq_some_iff {α : Type} {t : Table} {key : String} {read? : Value → Option α}
    {default a : α} : field? t key read? default = some a ↔
      (Field.of key read?).Fits t ∧ a = fieldOr t key read? default := by
  unfold field? Field.Fits fieldOr Field.of
  rw [eq_comm (a := a)]
  cases t.get? key with
  | none => simp
  | some v => cases h : read? v <;> simp [h]

theorem fieldOr_congr {α : Type} {t t' : Table} {key : String} {read? : Value → Option α}
    (h : (t.get? key).filter (Field.of key read?).fits =
      (t'.get? key).filter (Field.of key read?).fits) (default : α) :
    fieldOr t key read? default = fieldOr t' key read? default := by
  have hread : ∀ o : Option Value,
      (o.filter (Field.of key read?).fits).bind read? = o.bind read? := by
    intro o
    cases o with
    | none => rfl
    | some v => cases hv : read? v <;> simp [Option.filter, Field.of, hv]
  rw [fieldOr, fieldOr, ← hread, h, hread]

/-! ### All fields of a table -/

namespace Fieldwise

variable {α : Type} {decode? : Table → Option α} {required : List String} {fields : List Field}
  {best : Table → α} {t : Table}

/-- The part of a table that is kept in every trial. -/
abbrev kept (required : List String) (t : Table) : Table := t.filter fun e => required.contains e.1

/-- The part of a table that is tried field by field. -/
abbrev others (required : List String) (t : Table) : Table :=
  inKeyOrder (t.filter fun e => !required.contains e.1)

/-- Whether a key with its value fits alone. -/
abbrev fitsAlone (decode? : Table → Option α) (required : List String) (t : Table)
    (e : String × Value) : Bool := (decode? (kept required t ++ [e])).isSome

theorem mem_others {e : String × Value} :
    e ∈ others required t ↔ e ∈ t ∧ e.1 ∉ required := by
  simp [others, inKeyOrder]

theorem get?_kept (ht : (t.map Prod.fst).Nodup) (k : String) :
    Table.get? (kept required t) k = if k ∈ required then t.get? k else none := by
  rw [Table.get?_filter ht]
  split_ifs with hk <;> cases t.get? k <;> simp [Option.filter, hk]

theorem get?_others (ht : (t.map Prod.fst).Nodup) (k : String) :
    Table.get? (others required t) k = if k ∈ required then none else t.get? k := by
  have hnodup : ((t.filter fun e => !required.contains e.1).map Prod.fst).Nodup :=
    ht.sublist (List.filter_sublist.map _)
  rw [others, inKeyOrder, Table.get?_perm hnodup (List.mergeSort_perm _ _), Table.get?_filter ht]
  split_ifs with hk <;> cases t.get? k <;> simp [Option.filter, hk]

theorem nodup_others (ht : (t.map Prod.fst).Nodup) :
    ((others required t).map Prod.fst).Nodup :=
  ((List.mergeSort_perm _ _).map Prod.fst).nodup_iff.mpr (ht.sublist (List.filter_sublist.map _))

variable (R : Fieldwise decode? required fields best)
include R

theorem isSome_iff : (decode? t).isSome ↔
    (∀ k ∈ required, (t.get? k).isSome) ∧ ∀ f ∈ fields, f.Fits t := by
  rw [Option.isSome_iff_exists]
  simp only [R.decode_eq_some_iff]
  exact ⟨fun ⟨_, hreq, hfits, _⟩ => ⟨hreq, hfits⟩, fun ⟨hreq, hfits⟩ => ⟨_, hreq, hfits, rfl⟩⟩

section Trials
variable (ht : (t.map Prod.fst).Nodup) (hreq : ∀ k ∈ required, (t.get? k).isSome)
  (hfits : ∀ f ∈ fields, f.key ∈ required → f.Fits t)
include ht hreq hfits

/-- **What fits alone**: a key that is no field, and a field with a value that fits. -/
theorem fitsAlone_iff {e : String × Value} (he : e.1 ∉ required) :
    fitsAlone decode? required t e = true ↔ ∀ f ∈ fields, f.key = e.1 → f.fits e.2 = true := by
  have hget : ∀ k, Table.get? (kept required t ++ [e]) k =
      if k ∈ required then t.get? k else if k = e.1 then some e.2 else none := by
    intro k
    rw [Table.get?_append, get?_kept ht]
    split_ifs with hk hke
    · cases h : t.get? k with
      | none => simpa [h] using hreq k hk
      | some v => rfl
    · rw [hke]
      exact List.lookup_cons_self
    · simp [Table.get?, hke]
  rw [fitsAlone, R.isSome_iff]
  constructor
  · rintro ⟨-, h⟩ f hf hkey
    refine h f hf e.2 ?_
    rw [hget, hkey, if_neg he, if_pos rfl]
  · intro h
    refine ⟨fun k hk => ?_, fun f hf v hv => ?_⟩
    · rw [hget, if_pos hk]
      exact hreq k hk
    · rw [hget] at hv
      split_ifs at hv with hk hke
      · exact hfits f hf hk v hv
      · rw [← Option.some.inj hv]
        exact h f hf hke

theorem fitsAlone_field {f : Field} (hf : f ∈ fields) (hk : f.key ∉ required) (v : Value) :
    fitsAlone decode? required t (f.key, v) = f.fits v := by
  refine Bool.eq_iff_iff.mpr ((R.fitsAlone_iff ht hreq hfits hk).trans ⟨fun h => h f hf rfl, ?_⟩)
  intro h f' hf' hkey
  rwa [List.inj_on_of_nodup_map R.keys hf' hf hkey]

/-- **Accepted alone, accepted together.** The accepted part of a table has each field with the
value that the table has there, if that fits. -/
theorem get?_accepted {f : Field} (hf : f ∈ fields) :
    Table.get? (kept required t ++ (others required t).filter (fitsAlone decode? required t))
        f.key = (t.get? f.key).filter f.fits := by
  rw [Table.get?_append, get?_kept ht, Table.get?_filter (nodup_others ht), get?_others ht]
  split_ifs with hk
  · rw [Field.fits_iff_filter.mp (hfits f hf hk)]
    simp
  · rw [Option.none_or]
    congr 1
    exact funext (R.fitsAlone_field ht hreq hfits hf hk)

/-- **Reading leniently** takes every field that fits, and the default of any other. -/
theorem lenient_value (path : String) :
    (lenient? decode? path required t).value = some (best t) := by
  have hget := fun f hf => R.get?_accepted ht hreq hfits (f := f) hf
  refine (R.decode_eq_some_iff _ _).mpr ⟨fun k hk => ?_, fun f hf => ?_, ?_⟩
  · rw [Table.get?_append, get?_kept ht, if_pos hk, Option.isSome_or, hreq k hk, Bool.true_or]
  · rw [Field.fits_iff_filter, hget f hf, Option.filter_filter]
    simp
  · refine R.best_congr _ _ fun f hf => ?_
    rw [hget f hf, Option.filter_filter]
    simp

/-- **Reading leniently reports nothing** iff every field fits. -/
theorem warnings_lenient_eq_nil (path : String) :
    (lenient? decode? path required t).warnings = [] ↔ ∀ f ∈ fields, f.Fits t := by
  have hnil : (lenient? decode? path required t).warnings = [] ↔
      ∀ e ∈ others required t, fitsAlone decode? required t e = true := by
    simp only [lenient?, List.map_eq_nil_iff, List.filter_eq_nil_iff, Bool.not_eq_true',
      Bool.not_eq_false]
  rw [hnil]
  constructor
  · intro h f hf v hv
    by_cases hk : f.key ∈ required
    · exact hfits f hf hk v hv
    · rw [← R.fitsAlone_field ht hreq hfits hf hk]
      exact h _ (mem_others.mpr ⟨(lookup_eq_some_iff ht).mp hv, hk⟩)
  · intro h e he
    obtain ⟨he, hk⟩ := mem_others.mp he
    rw [R.fitsAlone_iff ht hreq hfits hk]
    intro f hf hkey
    refine h f hf e.2 ?_
    rw [hkey]
    exact (lookup_eq_some_iff ht).mpr he

end Trials

end Fieldwise

end WmConfig.Settings
