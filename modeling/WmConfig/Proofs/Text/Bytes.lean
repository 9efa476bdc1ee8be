import Mathlib.Data.List.Basic
import Mathlib.Order.Defs.LinearOrder
import Mathlib.Data.List.Lex
import Mathlib.Tactic.SplitIfs

/-! # The bytes of a text

Texts stand in the same order whether their characters or the bytes of their UTF-8 form are compared
(`bytes_le_iff`): a later character has a first byte that is larger, or the same first byte and
larger bytes after it. A text of ASCII is read off its bytes (`toList_of_bytes_lt`). -/

namespace WmConfig

/-- The bytes of the UTF-8 form of a text. -/
def bytes (s : String) : List UInt8 := s.toByteArray.data.toList

theorem bytes_eq (s : String) : bytes s = s.toList.flatMap String.utf8EncodeChar := by
  rw [bytes, ← String.utf8Encode_toList, List.utf8Encode, List.toList_data_toByteArray]

/-- A later character has larger bytes, whatever follows. -/
theorem utf8EncodeChar_append_lt {c d : Char} (h : c < d) (r r' : List UInt8) :
    String.utf8EncodeChar c ++ r < String.utf8EncodeChar d ++ r' := by
  have hlt : c.val.toNat < d.val.toNat := h
  have hmax : d.val.toNat < 0x110000 := by
    rcases d.valid with hd | ⟨-, hd⟩
    · exact Nat.lt_trans hd (by decide)
    · exact hd
  have hbyte : ∀ m n : Nat, m < 256 → n < 256 → (UInt8.ofNat m < UInt8.ofNat n ↔ m < n) := by
    intro m n hm hn
    rw [UInt8.lt_iff_toNat_lt, UInt8.toNat_ofNat_of_lt' hm, UInt8.toNat_ofNat_of_lt' hn]
  have heq : ∀ m n : Nat, m < 256 → n < 256 → (UInt8.ofNat m = UInt8.ofNat n ↔ m = n) := by
    intro m n hm hn
    rw [← UInt8.toNat_inj, UInt8.toNat_ofNat_of_lt' hm, UInt8.toNat_ofNat_of_lt' hn]
  have hdiv : ∀ k : Nat, k / 64 / 64 = k / 4096 ∧ k / 4096 / 64 = k / 262144 := fun k =>
    ⟨Nat.div_div_eq_div_mul k 64 64, Nat.div_div_eq_div_mul k 4096 64⟩
  unfold String.utf8EncodeChar
  generalize c.val.toNat = m at *
  generalize d.val.toNat = n at *
  obtain ⟨hm₁, hm₂⟩ := hdiv m
  obtain ⟨hn₁, hn₂⟩ := hdiv n
  have hm₃ : m / 262144 % 8 = m / 262144 := Nat.mod_eq_of_lt (by omega)
  have hn₃ : n / 262144 % 8 = n / 262144 := Nat.mod_eq_of_lt (by omega)
  simp only
  split_ifs <;>
    simp (disch := omega) only [List.cons_append, List.nil_append, List.cons_lt_cons_iff, hbyte,
      heq] <;>
    omega

theorem flatMap_utf8EncodeChar_lt : ∀ {cs ds : List Char}, cs < ds →
    cs.flatMap String.utf8EncodeChar < ds.flatMap String.utf8EncodeChar
  | [], [], h => absurd h (List.lt_irrefl _)
  | [], d :: ds, _ => by
    rw [List.flatMap_cons]
    obtain ⟨b, bs, hb⟩ := List.exists_cons_of_ne_nil (String.utf8EncodeChar_ne_nil (c := d))
    rw [hb]
    exact List.nil_lt_cons _ _
  | c :: cs, [], h => absurd h (List.not_lt_nil _)
  | c :: cs, d :: ds, h => by
    rw [List.flatMap_cons, List.flatMap_cons]
    rcases List.cons_lt_cons_iff.mp h with hlt | ⟨rfl, hlt⟩
    · exact utf8EncodeChar_append_lt hlt _ _
    · exact List.append_left_lt (flatMap_utf8EncodeChar_lt hlt)

theorem bytes_le_iff {s t : String} : bytes s ≤ bytes t ↔ s ≤ t := by
  have hmono : ∀ {s t : String}, s < t → bytes s < bytes t := by
    intro s t h
    rw [bytes_eq, bytes_eq]
    exact flatMap_utf8EncodeChar_lt h
  constructor
  · intro h
    by_contra hn
    exact h (hmono (String.not_le.mp hn))
  · intro h hlt
    rcases Std.le_iff_lt_or_eq.mp h with h | rfl
    · exact List.lt_asymm hlt (hmono h)
    · exact List.lt_irrefl _ hlt

/-! ### ASCII -/

/-- A character of ASCII is its own byte. -/
theorem utf8EncodeChar_of_lt {c : Char} (hc : c.toNat < 128) :
    String.utf8EncodeChar c = [UInt8.ofNat c.toNat] ∧ Char.ofUInt8 (UInt8.ofNat c.toNat) = c := by
  constructor
  · have hle : c.val.toNat ≤ 127 := Nat.le_of_lt_succ hc
    simp only [String.utf8EncodeChar, if_pos hle]
    rfl
  · rw [← Char.toNat_inj]
    exact UInt8.toNat_ofNat_of_lt' (Nat.lt_trans hc (by decide))

/-- No byte of another character is one of ASCII. -/
theorem le_of_mem_utf8EncodeChar {c : Char} (hc : 128 ≤ c.toNat) :
    ∀ b ∈ String.utf8EncodeChar c, 128 ≤ b.toNat := by
  have hle : ¬ c.val.toNat ≤ 127 := by
    change ¬ c.toNat ≤ 127
    omega
  simp only [String.utf8EncodeChar, if_neg hle]
  split_ifs <;> simp only [List.forall_mem_cons, List.not_mem_nil, false_imp_iff, implies_true,
    and_true, UInt8.toNat_ofNat'] <;> omega

/-- Characters of ASCII are their own bytes. -/
theorem map_ofUInt8_flatMap : ∀ {cs : List Char}, (∀ c ∈ cs, c.toNat < 128) →
    (cs.flatMap String.utf8EncodeChar).map Char.ofUInt8 = cs
  | [], _ => rfl
  | c :: cs, h => by
    obtain ⟨hc, hcs⟩ := List.forall_mem_cons.mp h
    obtain ⟨hbytes, hchar⟩ := utf8EncodeChar_of_lt hc
    rw [List.flatMap_cons, hbytes, List.map_append, map_ofUInt8_flatMap hcs, List.map_singleton,
      hchar]
    rfl

theorem toList_of_bytes_lt {s : String} (h : ∀ b ∈ bytes s, b < 128) :
    s.toList = (bytes s).map Char.ofUInt8 := by
  rw [bytes_eq] at h ⊢
  refine (map_ofUInt8_flatMap fun c hc => ?_).symm
  by_contra hlt
  obtain ⟨b, bs, hb⟩ := List.exists_cons_of_ne_nil (String.utf8EncodeChar_ne_nil (c := c))
  have hmem : b ∈ String.utf8EncodeChar c := hb ▸ List.mem_cons_self
  have hle := le_of_mem_utf8EncodeChar (by omega) b hmem
  exact absurd (UInt8.lt_iff_toNat_lt.mp (h b (List.mem_flatMap.mpr ⟨c, hc, hmem⟩)))
    (Nat.not_lt.mpr hle)

end WmConfig
