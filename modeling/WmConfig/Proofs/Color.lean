import WmConfig.Color
import WmConfig.Proofs.Number.Digits
import WmConfig.Proofs.Text.Bytes

/-! # Colours written out

A colour is read off a text iff this is `#` and three groups of hexadecimal digits of one length, from
one to four; each group then stands for the leading digits of its channel (`parse?_eq_some_iff`). The
reader may as well work on the bytes of the text, cut them at thirds, and shift what it reads: no
cut falls within a character and no shift is too large, whatever the text is
(`readBytes_eq_parse?`). -/

namespace WmConfig.Rgb

open Numeral

/-! ### The written form -/

/-- A text of `#` and three groups. -/
def spelling (r g b : List Char) : String := String.ofList ('#' :: (r ++ (g ++ b)))

/-- **The text writes a colour out**: three groups of one length, from one to four hexadecimal
digits. -/
structure Spells (spec : String) (r g b : List Char) : Prop where
  text : spec = spelling r g b
  red : AreDigits 16 r
  green : AreDigits 16 g ∧ g.length = r.length
  blue : AreDigits 16 b ∧ b.length = r.length
  least : 1 ≤ r.length
  most : r.length ≤ 4

/-- The group gives the leading digits of the channel, and the others are zero. -/
def Leads (group : List Char) (x : UInt16) : Prop :=
  x.toNat = number 16 group * 16 ^ (4 - group.length)

/-- The four digits of a channel. -/
def fourDigits (x : UInt16) : List Char :=
  [x.toNat / 0x1000, x.toNat / 0x100 % 0x10, x.toNat / 0x10 % 0x10, x.toNat % 0x10].map Nat.digitChar

/-- The colour written out with all of its digits. -/
def render (c : Rgb) : String := spelling (fourDigits c.red) (fourDigits c.green) (fourDigits c.blue)

theorem toList_spelling (r g b : List Char) : (spelling r g b).toList = '#' :: (r ++ (g ++ b)) :=
  String.toList_ofList

/-! ### Channels -/

/-- A group of at most four digits leaves room for its zeros. -/
theorem number_mul_lt {group : List Char} (hdigits : AreDigits 16 group)
    (hlength : group.length ≤ 4) : number 16 group * 16 ^ (4 - group.length) < UInt16.size :=
  calc number 16 group * 16 ^ (4 - group.length)
      < 16 ^ group.length * 16 ^ (4 - group.length) :=
        Nat.mul_lt_mul_of_pos_right (number_lt (by decide) hdigits) (Nat.pow_pos (by decide))
    _ = 16 ^ 4 := by rw [← Nat.pow_add, Nat.add_sub_cancel' hlength]
    _ = UInt16.size := rfl

theorem channel?_eq_some_iff {group : List Char} {x : UInt16} (hlength : group.length ≤ 4) :
    channel? group = some x ↔ group ≠ [] ∧ AreDigits 16 group ∧ Leads group x := by
  simp only [channel?, Option.map_eq_some_iff, value?_eq_some_iff (Nat.le_refl 16)]
  constructor
  · rintro ⟨n, ⟨hne, hdigits, rfl⟩, rfl⟩
    exact ⟨hne, hdigits, UInt16.toNat_ofNat_of_lt' (number_mul_lt hdigits hlength)⟩
  · rintro ⟨hne, hdigits, hx⟩
    refine ⟨_, ⟨hne, hdigits, rfl⟩, ?_⟩
    rw [← UInt16.toNat_inj, hx]
    exact UInt16.toNat_ofNat_of_lt' (number_mul_lt hdigits hlength)

/-! ### Texts -/

/-- Thirds of a list. -/
theorem thirds {cs r g b : List Char} (hcs : cs = r ++ (g ++ b)) (hg : g.length = r.length)
    (hb : b.length = r.length) : cs.length = 3 * r.length ∧ cs.take r.length = r ∧
      (cs.drop r.length).take r.length = g ∧ cs.drop (2 * r.length) = b := by
  subst hcs
  have hdrop : (r ++ (g ++ b)).drop r.length = g ++ b := List.drop_left
  refine ⟨by simp; omega, List.take_left, ?_, ?_⟩
  · rw [hdrop, ← hg, List.take_left]
  · rw [Nat.two_mul, ← List.drop_drop, hdrop, ← hg, List.drop_left]

/-- **Which texts write a colour out**, and which colour that is. -/
theorem parse?_eq_some_iff (spec : String) (c : Rgb) : parse? spec = some c ↔
    ∃ r g b, Spells spec r g b ∧ Leads r c.red ∧ Leads g c.green ∧ Leads b c.blue := by
  rw [parse?]
  constructor
  · intro h
    split at h
    case h_2 => cases h
    next cs hspec =>
    split_ifs at h with hlength
    obtain ⟨red, hred, h⟩ := Option.bind_eq_some_iff.mp h
    obtain ⟨green, hgreen, h⟩ := Option.bind_eq_some_iff.mp h
    obtain ⟨blue, hblue, h⟩ := Option.bind_eq_some_iff.mp h
    obtain rfl := Option.some.inj h
    have hr : (cs.take (cs.length / 3)).length = cs.length / 3 := by simp; omega
    have hg : ((cs.drop (cs.length / 3)).take (cs.length / 3)).length = cs.length / 3 := by
      simp; omega
    have hb : (cs.drop (2 * (cs.length / 3))).length = cs.length / 3 := by simp; omega
    obtain ⟨hne, hrDigits, hrLeads⟩ := (channel?_eq_some_iff (by omega)).mp hred
    obtain ⟨-, hgDigits, hgLeads⟩ := (channel?_eq_some_iff (by omega)).mp hgreen
    obtain ⟨-, hbDigits, hbLeads⟩ := (channel?_eq_some_iff (by omega)).mp hblue
    refine ⟨_, _, _, ⟨?_, hrDigits, ⟨hgDigits, by rw [hg, hr]⟩, ⟨hbDigits, by rw [hb, hr]⟩, ?_,
      by omega⟩, hrLeads, hgLeads, hbLeads⟩
    · rw [← String.toList_inj, toList_spelling, hspec, Nat.two_mul, ← List.drop_drop,
        List.take_append_drop, List.take_append_drop]
    · exact List.length_pos_iff.mpr hne
  · rintro ⟨r, g, b, ⟨rfl, hrDigits, ⟨hgDigits, hg⟩, ⟨hbDigits, hb⟩, hleast, hmost⟩, hr, hg', hb'⟩
    obtain ⟨hlength, htake, hmid, hdrop⟩ := thirds rfl hg hb
    have hwidth : (r ++ (g ++ b)).length / 3 = r.length := by omega
    have hne : ∀ {cs : List Char}, cs.length = r.length → cs ≠ [] := fun hcs =>
      List.length_pos_iff.mp (by omega)
    rw [toList_spelling]
    simp only
    rw [if_pos ⟨by omega, by omega⟩, hwidth, ofGroups?, htake, hmid, hdrop,
      (channel?_eq_some_iff hmost).mpr ⟨hne rfl, hrDigits, hr⟩,
      (channel?_eq_some_iff (hg ▸ hmost)).mpr ⟨hne hg, hgDigits, hg'⟩,
      (channel?_eq_some_iff (hb ▸ hmost)).mpr ⟨hne hb, hbDigits, hb'⟩]
    rfl

theorem digitValue_digitChar : ∀ n < 16, digitValue (Nat.digitChar n) = n := by decide

theorem areDigits_fourDigits (x : UInt16) : AreDigits 16 (fourDigits x) := by
  have hx : x.toNat < 0x10000 := x.toNat_lt
  intro c hc
  obtain ⟨n, hn, rfl⟩ := List.mem_map.mp hc
  have hlt : n < 16 := by
    simp only [List.mem_cons, List.not_mem_nil, or_false] at hn
    omega
  rwa [digitValue_digitChar n hlt]

theorem leads_fourDigits (x : UInt16) : Leads (fourDigits x) x := by
  have hx : x.toNat < 0x10000 := x.toNat_lt
  have hdigit : ∀ n < 16, ∀ cs, number 16 (Nat.digitChar n :: cs) =
      n * 16 ^ cs.length + number 16 cs := fun n hn cs => by
    rw [number_cons, digitValue_digitChar n hn]
  simp only [Leads, fourDigits, List.map_cons, List.map_nil]
  rw [hdigit _ (by omega), hdigit _ (by omega), hdigit _ (by omega), hdigit _ (by omega), number_nil]
  simp only [List.length_cons, List.length_nil]
  omega

/-! ### Zeros -/

/-- Zeros behind the digits of a group leave its channel as it is. -/
theorem leads_zeros {group : List Char} {k : Nat} (hlength : group.length + k ≤ 4) (x : UInt16) :
    Leads (group ++ List.replicate k '0') x ↔ Leads group x := by
  have hpow : 16 ^ k * 16 ^ (4 - (group.length + k)) = 16 ^ (4 - group.length) := by
    rw [← Nat.pow_add]
    congr 1
    omega
  rw [Leads, Leads, number_append, number_zeros, List.length_append, List.length_replicate,
    Nat.add_zero, Nat.mul_assoc, hpow]

theorem areDigits_zeros {group : List Char} {k : Nat} :
    AreDigits 16 (group ++ List.replicate k '0') ↔ AreDigits 16 group := by
  have hzero : digitValue '0' < 16 := by decide
  simp only [AreDigits, List.forall_mem_append, List.mem_replicate, and_imp]
  exact ⟨And.left, fun h => ⟨h, fun c _ hc => hc ▸ hzero⟩⟩

/-- Groups of one length can be told apart in the text. -/
theorem spelling_inj {r g b r' g' b' : List Char} (hg : g.length = r.length)
    (hb : b.length = r.length) (hg' : g'.length = r'.length) (hb' : b'.length = r'.length)
    (h : spelling r g b = spelling r' g' b') : r = r' ∧ g = g' ∧ b = b' := by
  have hcs : r ++ (g ++ b) = r' ++ (g' ++ b') := by
    have htext := congrArg String.toList h
    rw [toList_spelling, toList_spelling] at htext
    exact (List.cons.inj htext).2
  have hlength := congrArg List.length hcs
  simp only [List.length_append] at hlength
  obtain ⟨hr, hrest⟩ := List.append_inj hcs (by omega)
  obtain ⟨hgreen, hblue⟩ := List.append_inj hrest (by omega)
  exact ⟨hr, hgreen, hblue⟩

/-- **Zeros behind each group** do not change the colour. -/
theorem parse?_zeros {r g b : List Char} {k : Nat} (hg : g.length = r.length)
    (hb : b.length = r.length) (hleast : 1 ≤ r.length) (hmost : r.length + k ≤ 4) :
    parse? (spelling (r ++ List.replicate k '0') (g ++ List.replicate k '0')
      (b ++ List.replicate k '0')) = parse? (spelling r g b) := by
  refine Option.ext fun c => ?_
  rw [parse?_eq_some_iff, parse?_eq_some_iff]
  constructor
  · rintro ⟨r', g', b', ⟨htext, hr', ⟨hg', hgLength⟩, ⟨hb', hbLength⟩, -, -⟩, hleads⟩
    obtain ⟨rfl, rfl, rfl⟩ := spelling_inj (by simpa using hg) (by simpa using hb) hgLength hbLength
      htext
    rw [leads_zeros hmost, leads_zeros (hg ▸ hmost), leads_zeros (hb ▸ hmost)] at hleads
    exact ⟨r, g, b, ⟨rfl, areDigits_zeros.mp hr', ⟨areDigits_zeros.mp hg', hg⟩,
      ⟨areDigits_zeros.mp hb', hb⟩, hleast, by omega⟩, hleads⟩
  · rintro ⟨r', g', b', ⟨htext, hr', ⟨hg', hgLength⟩, ⟨hb', hbLength⟩, -, -⟩, hleads⟩
    obtain ⟨rfl, rfl, rfl⟩ := spelling_inj hg hb hgLength hbLength htext
    rw [← leads_zeros hmost, ← leads_zeros (show g.length + k ≤ 4 by omega),
      ← leads_zeros (show b.length + k ≤ 4 by omega)] at hleads
    exact ⟨_, _, _, ⟨rfl, areDigits_zeros.mpr hr', ⟨areDigits_zeros.mpr hg', by simpa using hg⟩,
      ⟨areDigits_zeros.mpr hb', by simpa using hb⟩, by simp; omega, by simpa using hmost⟩, hleads⟩

/-! ### Reading by bytes -/

/-- Why a reader that counts bytes breaks off. -/
inductive Fault where
  /-- A cut that falls within a character, or past the end. -/
  | cut
  /-- A shift by as many bits as a channel has, or more. -/
  | shift
deriving DecidableEq, Repr

/-- Whether a text can be cut before the byte at a place: it is no byte within a character. -/
def IsBoundary (bs : List UInt8) (i : Nat) : Prop :=
  i ≤ bs.length ∧ ∀ b ∈ bs[i]?, ¬ (0x80 ≤ b ∧ b < 0xc0)

instance (bs : List UInt8) (i : Nat) : Decidable (IsBoundary bs i) :=
  inferInstanceAs (Decidable (_ ∧ _))

/-- The bytes from one place up to another. -/
def slice (bs : List UInt8) (start stop : Nat) : Except Fault (List UInt8) :=
  if start ≤ stop ∧ IsBoundary bs start ∧ IsBoundary bs stop then
    .ok ((bs.drop start).take (stop - start))
  else .error .cut

/-- A channel in hexadecimal, with an optional plus sign. -/
def word16? (cs : List Char) : Option UInt16 :=
  ((value? 16 (dropPlus cs)).filter (· < UInt16.size)).map UInt16.ofNat

/-- The digits moved to the front of a channel. -/
def shifted (x : UInt16) (digits : Nat) : Except Fault UInt16 :=
  if 0 < digits ∧ digits ≤ 4 then .ok (x <<< UInt16.ofNat (16 - 4 * digits)) else .error .shift

/-- The channel of the third at a place. -/
def channelAt (hex : List UInt8) (width place : Nat) : Except Fault (Option UInt16) := do
  let group ← slice hex (place * width) ((place + 1) * width)
  match word16? (group.map Char.ofUInt8) with
  | some x => return some (← shifted x width)
  | none => return none

/-- Reads the bytes of a text. -/
def readBytes : List UInt8 → Except Fault (Option Rgb)
  | [] => return none
  | b :: hex =>
    if Char.ofUInt8 b ≠ '#' ∨ hex = [] ∨ hex.length % 3 ≠ 0 ∨ 12 < hex.length then return none
    else if ¬ AreDigits 16 (hex.map Char.ofUInt8) then return none
    else do
      let some red ← channelAt hex (hex.length / 3) 0 | return none
      let some green ← channelAt hex (hex.length / 3) 1 | return none
      let some blue ← channelAt hex (hex.length / 3) 2 | return none
      return some ⟨red, green, blue⟩

/-! ### No fault -/

theorem toNat_lt_of_digitValue {c : Char} (h : digitValue c < 16) : c.toNat < 128 := by
  by_contra hc
  rw [digitValue_of_le (by omega)] at h
  exact absurd h (by decide)

/-- Hexadecimal digits are their own bytes. -/
theorem map_bytes_of_digits {cs : List Char} (h : AreDigits 16 cs) :
    (cs.flatMap String.utf8EncodeChar).map Char.ofUInt8 = cs :=
  map_ofUInt8_flatMap fun c hc => toNat_lt_of_digitValue (h c hc)

/-- If all bytes of a text are hexadecimal digits, the text has no other characters. -/
theorem areDigits_of_bytes {cs : List Char}
    (h : AreDigits 16 ((cs.flatMap String.utf8EncodeChar).map Char.ofUInt8)) : AreDigits 16 cs := by
  intro c hc
  have hbyte : ∀ b ∈ String.utf8EncodeChar c, digitValue (Char.ofUInt8 b) < 16 := fun b hb =>
    h _ (List.mem_map_of_mem (List.mem_flatMap.mpr ⟨c, hc, hb⟩))
  by_cases hlt : c.toNat < 128
  · obtain ⟨hbytes, hchar⟩ := utf8EncodeChar_of_lt hlt
    rw [← hchar]
    exact hbyte _ (by rw [hbytes]; exact List.mem_singleton_self _)
  · obtain ⟨b, bs, hb⟩ := List.exists_cons_of_ne_nil (String.utf8EncodeChar_ne_nil (c := c))
    have hmem : b ∈ String.utf8EncodeChar c := hb ▸ List.mem_cons_self
    have hle := le_of_mem_utf8EncodeChar (by omega) b hmem
    exact absurd (toNat_lt_of_digitValue (hbyte b hmem)) (Nat.not_lt.mpr hle)

/-- A text of ASCII can be cut everywhere. -/
theorem isBoundary_of_digits {hex : List UInt8} (h : AreDigits 16 (hex.map Char.ofUInt8)) {i : Nat}
    (hi : i ≤ hex.length) : IsBoundary hex i := by
  refine ⟨hi, fun b hb => ?_⟩
  have hlt : b.toNat < 128 := toNat_lt_of_digitValue (h _ (List.mem_map_of_mem (List.mem_of_getElem? hb)))
  rintro ⟨hle, -⟩
  exact absurd (UInt8.le_iff_toNat_le.mp hle) (Nat.not_le.mpr hlt)

/-- A group of digits has no sign and fits a channel. -/
theorem word16?_of_digits {group : List Char} (hdigits : AreDigits 16 group)
    (hleast : 1 ≤ group.length) (hmost : group.length ≤ 4) :
    word16? group = some (UInt16.ofNat (number 16 group)) := by
  have hplus : dropPlus group = group := by
    refine dropPlus.eq_2 _ fun cs hcs => ?_
    have hsign := hdigits '+' (hcs ▸ List.mem_cons_self)
    exact absurd hsign (by decide)
  have hvalue : value? 16 group = some (number 16 group) :=
    (value?_eq_some_iff (Nat.le_refl 16)).mpr ⟨List.length_pos_iff.mp hleast, hdigits, rfl⟩
  have hlt : number 16 group < UInt16.size :=
    Nat.lt_of_lt_of_le (number_lt (by decide) hdigits) (Nat.pow_le_pow_right (by decide) hmost)
  simp only [word16?, hplus, hvalue, Option.filter_some, decide_eq_true hlt, if_true, Option.map_some]

/-- A shift moves the digits of a group to the front. -/
theorem shifted_eq {group : List Char} (hdigits : AreDigits 16 group) (hleast : 1 ≤ group.length)
    (hmost : group.length ≤ 4) : shifted (UInt16.ofNat (number 16 group)) group.length =
      .ok (UInt16.ofNat (number 16 group * 16 ^ (4 - group.length))) := by
  have hlt : number 16 group < UInt16.size :=
    Nat.lt_of_lt_of_le (number_lt (by decide) hdigits) (Nat.pow_le_pow_right (by decide) hmost)
  have hshift : (UInt16.ofNat (16 - 4 * group.length)).toNat = 16 - 4 * group.length :=
    UInt16.toNat_ofNat_of_lt' (Nat.lt_of_le_of_lt (Nat.sub_le _ _) (by decide))
  have hpow : 2 ^ (16 - 4 * group.length) = 16 ^ (4 - group.length) := by
    rw [show 16 - 4 * group.length = 4 * (4 - group.length) by omega, Nat.pow_mul]
  rw [shifted, if_pos ⟨hleast, hmost⟩]
  congr 1
  rw [← UInt16.toNat_inj, UInt16.toNat_shiftLeft, hshift, UInt16.toNat_ofNat_of_lt' hlt,
    Nat.mod_eq_of_lt (show 16 - 4 * group.length < 16 by omega), Nat.shiftLeft_eq, hpow,
    UInt16.toNat_ofNat_of_lt' (number_mul_lt hdigits hmost)]
  exact Nat.mod_eq_of_lt (number_mul_lt hdigits hmost)

/-- **A third of the digits is read as its channel**, without a fault. -/
theorem channelAt_eq {hex : List UInt8} {width place : Nat}
    (hdigits : AreDigits 16 (hex.map Char.ofUInt8)) (hleast : 1 ≤ width) (hmost : width ≤ 4)
    (hplace : (place + 1) * width ≤ hex.length) : channelAt hex width place =
      .ok (channel? (((hex.map Char.ofUInt8).drop (place * width)).take width)) := by
  have hnext : (place + 1) * width = place * width + width := Nat.succ_mul place width
  have hslice : slice hex (place * width) ((place + 1) * width) =
      .ok ((hex.drop (place * width)).take width) := by
    rw [slice, if_pos ⟨by omega, isBoundary_of_digits hdigits (by omega),
      isBoundary_of_digits hdigits hplace⟩, hnext, Nat.add_sub_cancel_left]
  generalize hgroup : ((hex.map Char.ofUInt8).drop (place * width)).take width = group
  have hmap : ((hex.drop (place * width)).take width).map Char.ofUInt8 = group := by
    rw [List.map_take, List.map_drop, hgroup]
  have hlength : group.length = width := by
    rw [← hgroup]
    simp only [List.length_take, List.length_drop, List.length_map]
    omega
  have hgroupDigits : AreDigits 16 group := fun c hc =>
    hdigits c (List.mem_of_mem_drop (List.mem_of_mem_take (hgroup ▸ hc)))
  subst hlength
  have hchannel : channel? group =
      some (UInt16.ofNat (number 16 group * 16 ^ (4 - group.length))) := by
    rw [channel?_eq_some_iff hmost]
    exact ⟨List.length_pos_iff.mp hleast, hgroupDigits,
      UInt16.toNat_ofNat_of_lt' (number_mul_lt hgroupDigits hmost)⟩
  rw [channelAt, hslice, hchannel]
  change (match word16? (((hex.drop (place * group.length)).take group.length).map Char.ofUInt8) with
    | some x => _
    | none => _) = _
  rw [hmap, word16?_of_digits hgroupDigits hleast hmost]
  change (do return some (← shifted _ _)) = _
  rw [shifted_eq hgroupDigits hleast hmost]
  rfl

/-- Only a number sign has the byte of a number sign in front. -/
theorem ofUInt8_ne_of_utf8EncodeChar {c : Char} (hc : c ≠ '#') {b : UInt8} {bs : List UInt8}
    (h : String.utf8EncodeChar c = b :: bs) : Char.ofUInt8 b ≠ '#' := by
  by_cases hlt : c.toNat < 128
  · obtain ⟨hbytes, hchar⟩ := utf8EncodeChar_of_lt hlt
    obtain ⟨rfl, -⟩ := List.cons.inj (hbytes.symm.trans h)
    rwa [hchar]
  · have hle := le_of_mem_utf8EncodeChar (by omega) b (h ▸ List.mem_cons_self)
    rintro hb
    have htoNat : b.toNat = '#'.toNat := congrArg Char.toNat hb
    rw [htoNat] at hle
    exact absurd hle (by decide)

/-- The groups of a text that writes a colour out are all that follows the number sign. -/
theorem readable_of_spells {spec : String} {r g b cs : List Char} (h : Spells spec r g b)
    (hspec : spec.toList = '#' :: cs) :
    cs ≠ [] ∧ cs.length % 3 = 0 ∧ cs.length ≤ 12 ∧ AreDigits 16 cs := by
  obtain ⟨rfl, hr, ⟨hg, hgLength⟩, ⟨hb, hbLength⟩, hleast, hmost⟩ := h
  obtain rfl := (List.cons.inj ((toList_spelling r g b).symm.trans hspec)).2
  have hlength : (r ++ (g ++ b)).length = 3 * r.length := (thirds rfl hgLength hbLength).1
  exact ⟨List.length_pos_iff.mp (by omega), by omega, by omega, hr.append (hg.append hb)⟩

/-- The bytes of groups of digits are read as the groups. -/
theorem readBytes_of_digits {cs : List Char} (hne : cs ≠ []) (hthree : cs.length % 3 = 0)
    (hmost : cs.length ≤ 12) (hdigits : AreDigits 16 cs) :
    readBytes (UInt8.ofNat '#'.toNat :: cs.flatMap String.utf8EncodeChar) =
      .ok (ofGroups? (cs.length / 3) cs) := by
  have hmap := map_bytes_of_digits hdigits
  generalize cs.flatMap String.utf8EncodeChar = hex at hmap
  have hlength : hex.length = cs.length := by rw [← hmap, List.length_map]
  have hpos : 0 < cs.length := List.length_pos_iff.mpr hne
  have hhex : hex ≠ [] := List.length_pos_iff.mp (by omega)
  have hhexDigits : AreDigits 16 (hex.map Char.ofUInt8) := hmap.symm ▸ hdigits
  have hchannel : ∀ place < 3, channelAt hex (cs.length / 3) place =
      .ok (channel? ((cs.drop (place * (cs.length / 3))).take (cs.length / 3))) := by
    intro place hplace
    have hle : (place + 1) * (cs.length / 3) ≤ hex.length :=
      calc (place + 1) * (cs.length / 3) ≤ 3 * (cs.length / 3) := Nat.mul_le_mul_right _ hplace
        _ ≤ cs.length := Nat.mul_div_le _ _
        _ = hex.length := hlength.symm
    rw [channelAt_eq hhexDigits (by omega) (by omega) hle, hmap]
  have hlast : (cs.drop (2 * (cs.length / 3))).take (cs.length / 3) = cs.drop (2 * (cs.length / 3)) :=
    List.take_of_length_le (by rw [List.length_drop]; omega)
  have hguard : ¬ (Char.ofUInt8 (UInt8.ofNat '#'.toNat) ≠ '#' ∨ hex = [] ∨ hex.length % 3 ≠ 0 ∨
      12 < hex.length) := by
    rw [hlength]
    rintro (hc | h | h | h)
    · exact hc (by decide)
    · exact hhex h
    · exact h hthree
    · omega
  rw [readBytes, if_neg hguard, if_neg (not_not.mpr hhexDigits), hlength, hchannel 0 (by decide), hchannel 1 (by decide),
    hchannel 2 (by decide), Nat.zero_mul, Nat.one_mul, List.drop_zero, hlast, ofGroups?]
  cases channel? (cs.take (cs.length / 3)) with
  | none => rfl
  | some red =>
    cases channel? ((cs.drop (cs.length / 3)).take (cs.length / 3)) with
    | none => rfl
    | some green => cases channel? (cs.drop (2 * (cs.length / 3))) <;> rfl

/-- Bytes that are no groups of digits are no colour. -/
theorem readBytes_of_not_digits {cs : List Char}
    (h : ¬ (cs ≠ [] ∧ cs.length % 3 = 0 ∧ cs.length ≤ 12 ∧ AreDigits 16 cs)) :
    readBytes (UInt8.ofNat '#'.toNat :: cs.flatMap String.utf8EncodeChar) = .ok none := by
  rw [readBytes]
  split_ifs with hguard hall
  · rfl
  · refine absurd ?_ h
    have hdigits := areDigits_of_bytes hall
    have hlength := congrArg List.length (map_bytes_of_digits hdigits)
    rw [List.length_map] at hlength
    push Not at hguard
    obtain ⟨-, hne, hthree, hmost⟩ := hguard
    rw [hlength] at hthree hmost
    exact ⟨fun hcs => hne (by rw [hcs]; rfl), hthree, hmost, hdigits⟩
  · rfl

/-- **Reading by bytes gives the same colour** and breaks off for no text. -/
theorem readBytes_eq_parse? (spec : String) : readBytes (bytes spec) = .ok (parse? spec) := by
  rw [bytes_eq]
  rcases hspec : spec.toList with _ | ⟨c, cs⟩
  · rw [parse?, hspec]
    rfl
  rw [List.flatMap_cons]
  by_cases hc : c = '#'
  · subst hc
    by_cases hread : cs ≠ [] ∧ cs.length % 3 = 0 ∧ cs.length ≤ 12 ∧ AreDigits 16 cs
    · obtain ⟨hne, hthree, hmost, hdigits⟩ := hread
      rw [parse?, hspec]
      simp only
      rw [if_pos ⟨hthree, hmost⟩]
      exact readBytes_of_digits hne hthree hmost hdigits
    · have hnone : parse? spec = none := by
        rw [Option.eq_none_iff_forall_ne_some]
        intro c hparse
        obtain ⟨r, g, b, hspells, -⟩ := (parse?_eq_some_iff spec c).mp hparse
        exact hread (readable_of_spells hspells hspec)
      rw [hnone]
      exact readBytes_of_not_digits hread
  · have hnone : parse? spec = none := by
      rw [parse?, hspec]
      split
      · next h => exact absurd (List.cons.inj h).1 hc
      · rfl
    obtain ⟨b, bs, hb⟩ := List.exists_cons_of_ne_nil (String.utf8EncodeChar_ne_nil (c := c))
    rw [hnone, hb, List.cons_append, readBytes, if_pos (.inl (ofUInt8_ne_of_utf8EncodeChar hc hb))]
    rfl

/-! ### What is read -/

/-- **A text is a colour iff it writes one out**, with the number of each group moved to the front of
its channel; a reader of bytes finds the same and breaks off for no text. So a colour written out
with all of its digits is read back, and zeros behind each group do not change the colour. -/
theorem colour_of_spelling (spec : String) :
    (∀ c, parse? spec = some c ↔
      ∃ r g b, Spells spec r g b ∧ Leads r c.red ∧ Leads g c.green ∧ Leads b c.blue) ∧
    readBytes (bytes spec) = .ok (parse? spec) ∧
    (∀ c, parse? (render c) = some c) ∧
    ∀ (r g b : List Char) (k : Nat), g.length = r.length → b.length = r.length → 1 ≤ r.length →
      r.length + k ≤ 4 →
      parse? (spelling (r ++ List.replicate k '0') (g ++ List.replicate k '0')
        (b ++ List.replicate k '0')) = parse? (spelling r g b) := by
  refine ⟨parse?_eq_some_iff spec, readBytes_eq_parse? spec, fun c => ?_,
    fun r g b k => parse?_zeros⟩
  rw [parse?_eq_some_iff]
  exact ⟨_, _, _, ⟨rfl, areDigits_fourDigits _, ⟨areDigits_fourDigits _, rfl⟩,
    ⟨areDigits_fourDigits _, rfl⟩, Nat.succ_pos 3, Nat.le_refl 4⟩, leads_fourDigits _,
    leads_fourDigits _, leads_fourDigits _⟩

/-- Three digits and six. -/
theorem red_of_spelling :
    parse? "#f00" = some ⟨0xf000, 0, 0⟩ ∧ parse? "#f00000" = parse? "#f00" := by
  obtain ⟨hiff, -, -, hzeros⟩ := colour_of_spelling "#f00"
  refine ⟨(hiff _).mpr ⟨['f'], ['0'], ['0'], ⟨rfl, by decide, by decide, by decide, by decide,
    by decide⟩, ?_, ?_, ?_⟩, hzeros ['f'] ['0'] ['0'] 1 rfl rfl (by decide) (by decide)⟩
  · show (0xf000 : UInt16).toNat = number 16 ['f'] * 16 ^ 3
    decide
  · show (0 : UInt16).toNat = number 16 ['0'] * 16 ^ 3
    decide
  · show (0 : UInt16).toNat = number 16 ['0'] * 16 ^ 3
    decide

end WmConfig.Rgb
