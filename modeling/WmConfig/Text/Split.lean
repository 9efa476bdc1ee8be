/-! # Cutting texts at a character

Cuts at the first or the last place where a separator stands; the separator itself is dropped. -/

namespace WmConfig

/-- Cuts at the first `sep`. -/
def cutFirst? (sep : Char) : List Char → Option (List Char × List Char)
  | [] => none
  | c :: cs =>
    if c = sep then some ([], cs)
    else (cutFirst? sep cs).map fun (before, after) => (c :: before, after)

/-- Cuts at the last `sep`. -/
def cutLast? (sep : Char) : List Char → Option (List Char × List Char)
  | [] => none
  | c :: cs =>
    match cutLast? sep cs with
    | some (before, after) => some (c :: before, after)
    | none => if c = sep then some ([], cs) else none

theorem append_of_cutFirst? {sep : Char} {cs before after : List Char}
    (h : cutFirst? sep cs = some (before, after)) : before ++ sep :: after = cs := by
  induction cs generalizing before with
  | nil => simp [cutFirst?] at h
  | cons c cs ih =>
    by_cases hc : c = sep
    · simp_all [cutFirst?]
    · simp only [cutFirst?, hc, if_false, Option.map_eq_some_iff, Prod.mk.injEq, Prod.exists] at h
      obtain ⟨b, a, hba, rfl, rfl⟩ := h
      simp [ih hba]

theorem append_of_cutLast? {sep : Char} {cs before after : List Char}
    (h : cutLast? sep cs = some (before, after)) : before ++ sep :: after = cs := by
  induction cs generalizing before after with
  | nil => simp [cutLast?] at h
  | cons c cs ih =>
    rw [cutLast?] at h
    split at h
    · next b a hba =>
      simp only [Option.some.injEq, Prod.mk.injEq] at h
      obtain ⟨rfl, rfl⟩ := h
      simp [ih hba]
    · by_cases hc : c = sep <;> simp_all

end WmConfig
