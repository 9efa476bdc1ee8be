import Mathlib.Data.List.Nodup

/-! # Look-ups in tables

A look-up gives an entry of the table (`mem_of_lookup`), and if no key occurs twice, every entry is
what a look-up of its key gives (`lookup_eq_some_iff`). What is done at one key makes no difference
to a look-up of another (`lookup_filter_ne`, `lookup_moved`). -/

namespace WmConfig

variable {α : Type} {l : List (String × α)} {key k : String} {a : α}

theorem lookup_cons_of_ne (h : key ≠ k) (a : α) (l : List (String × α)) :
    List.lookup key ((k, a) :: l) = l.lookup key := by
  have hbeq : (key == k) = false := by simpa using h
  rw [List.lookup_cons, hbeq]

theorem lookup_eq_none_iff : l.lookup key = none ↔ key ∉ l.map Prod.fst := by
  rw [List.lookup_eq_none_iff, List.mem_map]
  constructor
  · rintro h ⟨e, he, rfl⟩
    simpa using h e he
  · intro h e he
    simpa using fun hk => h ⟨e, he, hk.symm⟩

theorem mem_of_lookup (h : l.lookup key = some a) : (key, a) ∈ l := by
  obtain ⟨l₁, l₂, rfl, -⟩ := List.lookup_eq_some_iff.mp h
  exact List.mem_append_right l₁ List.mem_cons_self

theorem lookup_eq_some_iff (hl : (l.map Prod.fst).Nodup) : l.lookup key = some a ↔ (key, a) ∈ l := by
  refine ⟨mem_of_lookup, fun h => ?_⟩
  obtain ⟨l₁, l₂, rfl⟩ := List.append_of_mem h
  refine List.lookup_eq_some_iff.mpr ⟨l₁, l₂, rfl, fun e he => ?_⟩
  rw [List.map_append, List.nodup_append] at hl
  have hne := hl.2.2 e.1 (List.mem_map_of_mem he) key (by simp)
  simpa using fun hk => hne hk.symm

theorem lookup_filter_self (key : String) (l : List (String × α)) :
    (l.filter (·.1 != key)).lookup key = none := by
  rw [lookup_eq_none_iff]
  simp

theorem lookup_filter_ne (hk : k ≠ key) : ∀ l : List (String × α),
    (l.filter (·.1 != key)).lookup k = l.lookup k
  | [] => rfl
  | (k', a) :: l => by
    by_cases hkey : k' = key
    · rw [List.filter_cons_of_neg (by simpa using hkey), lookup_filter_ne hk l,
        lookup_cons_of_ne (by rintro rfl; exact hk hkey)]
    · rw [List.filter_cons_of_pos (by simpa using hkey), List.lookup_cons, List.lookup_cons,
        lookup_filter_ne hk l]

/-- A key whose entry is taken out and put at the end. -/
theorem lookup_moved (key : String) (a : α) (k : String) (l : List (String × α)) :
    (l.filter (·.1 != key) ++ [(key, a)]).lookup k = if k = key then some a else l.lookup k := by
  rw [List.lookup_append]
  split_ifs with hk
  · rw [hk, lookup_filter_self, List.lookup_cons_self, Option.none_or]
  · rw [lookup_filter_ne hk, lookup_cons_of_ne hk, List.lookup_nil, Option.or_none]

end WmConfig
