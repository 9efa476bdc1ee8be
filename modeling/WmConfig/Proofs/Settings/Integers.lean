import WmConfig.Proofs.Settings.Differing
import WmConfig.Proofs.Toml.Added
import WmConfig.Proofs.Toml.Integers

/-! # The limits of whole numbers

A whole number in a document has 64 bits, and the fields for whole numbers have limits of their own.
One that has more than 64 bits is a fault of the whole document; one beyond the limits of its field
is reported, and the field has its default; the opacity is brought into its range instead. All of it
depends on the number only, not on how it is written or where the field stands, and nothing else
that is read changes (`whole_number_limits`). -/

namespace WmConfig.Settings

open Toml Toml.Scalar

/-- The fields for whole numbers. -/
inductive IntegerField where
  /-- The field `border` of the section `general`. -/
  | border
  /-- The field `snap` of the section `general`. -/
  | snap
  /-- The field `opacity_unfocused` of the section `general`. -/
  | opacityUnfocused
  /-- The field `nmaster` of the section `layouts`. -/
  | nmaster
  /-- The field `ncol` of the section `layouts`. -/
  | ncol
deriving DecidableEq

namespace IntegerField

/-- The section of the field. -/
def home : IntegerField → FieldSection
  | border | snap | opacityUnfocused => .general
  | nmaster | ncol => .layouts

/-- The key of the field. -/
def key : IntegerField → String
  | border => "border"
  | snap => "snap"
  | opacityUnfocused => "opacity_unfocused"
  | nmaster => "nmaster"
  | ncol => "ncol"

/-- The settings with a number in the field. -/
def set (s : Settings) (n : Int) : IntegerField → Settings
  | border => { s with general := { s.general with border := .ofNat n.toNat } }
  | snap => { s with general := { s.general with snap := .ofNat n.toNat } }
  | opacityUnfocused => { s with general := { s.general with opacityUnfocused := n } }
  | nmaster => { s with layouts := { s.layouts with nmaster := .ofNat n.toNat } }
  | ncol => { s with layouts := { s.layouts with ncol := .ofNat n.toNat } }

/-- A number up to the limit is taken, and any other is reported and gives the default. -/
def upTo (limit default : Int) (s : Settings) (n : Int) (f : IntegerField) : Reported Settings :=
  if 0 ≤ n ∧ n ≤ limit then ⟨f.set s n, []⟩
  else ⟨f.set s default, [.fieldInvalid f.home.name f.key]⟩

/-- **What is read** of a document with the number in the field, where `s` is read of the document
without the field. -/
def outcome (s : Settings) (n : Int) : IntegerField → Reported Settings
  | border => border.upTo 65535 1 s n
  | snap => snap.upTo 65535 8 s n
  | opacityUnfocused =>
    ⟨opacityUnfocused.set s (min (max n 0) 100),
      if 0 ≤ n ∧ n ≤ 100 then [] else [.opacityClamped n (min (max n 0) 100)]⟩
  | nmaster => nmaster.upTo 4294967295 1 s n
  | ncol => ncol.upTo 4294967295 1 s n

end IntegerField

/-! ### Documents with one more field -/

section Added
variable {root root' : Table} {name key : String} {v : Value}

theorem sectionAt_of_adds (h : Adds name key v root root') : ∃ t : Table,
    sectionAt? root' name = some (assign key (some v) t) ∧ (t.get? key).isSome ∧
      ∀ k, valueAt? root name k = Table.get? (assign key none t) k := by
  obtain ⟨t, hroot', hsome, hroot⟩ := h.here
  refine ⟨t, sectionAt_eq_some_iff.mpr hroot', hsome, fun k => ?_⟩
  rcases hroot with hroot | ⟨hroot, hnil⟩
  · rw [valueAt?, sectionAt_eq_some_iff.mpr hroot]
    rfl
  · rw [valueAt?, sectionAt?, hroot, hnil]
    rfl

/-- The documents differ at the key that one of them has and the other has not. -/
theorem differsAt_of_adds (h : Adds name key v root root') : DiffersAt name key root root' := by
  obtain ⟨t, hsection, -, hvalue⟩ := sectionAt_of_adds h
  refine ⟨h.others, ?_, fun k hk => ?_⟩
  · obtain ⟨t, -, -, hroot | ⟨hroot, -⟩⟩ := h.here
    · rw [notTable_of_section hsection, notTable_of_section (sectionAt_eq_some_iff.mpr hroot)]
    · rw [notTable_of_section hsection, notTable, hroot]
      rfl
  · rw [hvalue, valueAt?, hsection, Option.bind_some, Table.get?, Table.get?,
      lookup_assign_of_ne hk, lookup_assign_of_ne hk]

theorem valueAt?_of_adds (h : Adds name key v root root') : valueAt? root' name key = some v := by
  obtain ⟨t, hroot', hsome, -⟩ := sectionAt_of_adds h
  obtain ⟨w, hw⟩ := Option.isSome_iff_exists.mp hsome
  rw [valueAt?, hroot', Option.bind_some, Table.get?, lookup_assign_self]
  exact congrArg (Option.bind · _) hw

theorem fieldAt_of_adds {α : Type} (h : Adds name key v root root') (read? : Value → Option α)
    (default : α) : fieldAt root' name key read? default = (read? v).getD default := by
  rw [fieldAt, valueAt?_of_adds h]
  rfl

/-- A field that is added to others that fit is reported if it does not fit. -/
theorem misfits_of_adds {fields : List Field} (hfields : (fields.map Field.key).Nodup)
    {f : Field} (hf : f ∈ fields) (h : Adds name f.key v root root')
    (hnil : misfits fields (tableOf root name) = []) :
    misfits fields (tableOf root' name) = if f.fits v then [] else [f.key] := by
  have hothers : ∀ g ∈ fields, g.key ≠ f.key → g.Fits (tableOf root' name) := by
    intro g hg hne w hw
    rw [ListSection.get?_tableOf, (differsAt_of_adds h).valueAt?_eq fun _ => hne,
      ← ListSection.get?_tableOf] at hw
    by_contra hmisfit
    have hmem := (key_mem_misfits hfields hg).mpr fun hfit => hmisfit (hfit w hw)
    rw [hnil] at hmem
    cases hmem
  have hself : f.Fits (tableOf root' name) ↔ f.fits v = true := by
    have hget : Table.get? (tableOf root' name) f.key = some v := by
      rw [ListSection.get?_tableOf, valueAt?_of_adds h]
    exact ⟨fun hfit => hfit v hget, fun hfit w hw => Option.some.inj (hget.symm.trans hw) ▸ hfit⟩
  have hmem : ∀ k, k ∈ misfits fields (tableOf root' name) ↔ k = f.key ∧ ¬ f.fits v = true := by
    intro k
    rw [mem_misfits]
    constructor
    · rintro ⟨g, hg, rfl, hmisfit⟩
      have hkey : g.key = f.key := by_contra fun hne => hmisfit (hothers g hg hne)
      obtain rfl := List.inj_on_of_nodup_map hfields hg hf hkey
      exact ⟨rfl, fun hfit => hmisfit (hself.mpr hfit)⟩
    · rintro ⟨rfl, hmisfit⟩
      exact ⟨f, hf, rfl, fun hfit => hmisfit (hself.mp hfit)⟩
  split_ifs with hfit
  · exact List.eq_nil_iff_forall_not_mem.mpr fun k hk => ((hmem k).mp hk).2 hfit
  · refine List.perm_singleton.mp ((List.perm_ext_iff_of_nodup (nodup_misfits hfields _)
      (List.nodup_singleton _)).mpr fun k => ?_)
    rw [hmem, List.mem_singleton]
    exact and_iff_left hfit

/-- A document of which nothing is reported, part by part. -/
theorem parts_of_defects_nil (hnil : defects root = []) :
    (∀ name ∈ sectionNames, notTable root name = []) ∧ (∀ l : ListSection, l.defects root = []) ∧
      ∀ s : FieldSection, s.defects root = [] := by
  simp only [defects, List.flatMap_cons, List.flatMap_nil, List.append_eq_nil_iff, and_assoc]
    at hnil
  obtain ⟨ktags, klayouts, krules, kkeys, -, kgeneral, general, kcolors, colors, kstatusbar,
    statusbar, ltags, llayouts, layouts, lrules, lkeys, keys, -⟩ := hnil
  refine ⟨?_, fun l => ?_, fun s => ?_⟩
  · simp only [sectionNames, List.forall_mem_cons]
    exact ⟨kgeneral, kcolors, kstatusbar, ktags, klayouts, krules, kkeys, List.forall_mem_nil _⟩
  · cases l
    exacts [ltags, llayouts, lrules, lkeys]
  · cases s
    exacts [general, colors, statusbar, layouts, keys]

/-- **What is reported of a field** that is added to a document of which nothing is reported. -/
theorem defects_of_adds (s : FieldSection) {f : Field} (hf : f ∈ s.schema)
    (hlist : ¬ IsList s.name f.key) (h : Adds s.name f.key v root root')
    (hnil : defects root = []) :
    defects root' = (if f.fits v then [] else [.fieldInvalid s.name f.key]) ++
      outOfRange (fieldAt root' "general" "opacity_unfocused" int? 100)
        (fieldAt root' "layouts" "mwfact" float? defaultMwfact) := by
  obtain ⟨hkinds, hlists, hsections⟩ := parts_of_defects_nil hnil
  have hfields : ∀ s' : FieldSection, s'.defects root' =
      if s'.name = s.name then if f.fits v then [] else [.fieldInvalid s.name f.key] else [] := by
    intro s'
    have hs' := hsections s'
    split_ifs with hname hfit
    · rw [FieldSection.name_inj hname] at hs' ⊢
      rw [FieldSection.defects, misfits_of_adds s.keys_schema hf h (List.map_eq_nil_iff.mp hs'),
        if_pos hfit]
      rfl
    · rw [FieldSection.name_inj hname] at hs' ⊢
      rw [FieldSection.defects, misfits_of_adds s.keys_schema hf h (List.map_eq_nil_iff.mp hs'),
        if_neg hfit]
      rfl
    · exact (ReadsOnly.fieldDefects s' (h.others s'.name hname)).trans hs'
  have hdiffers := differsAt_of_adds h
  have hkinds' : ∀ name ∈ sectionNames, notTable root' name = [] := fun name hname =>
    (hdiffers.notTable_eq name).trans (hkinds name hname)
  simp only [sectionNames, List.forall_mem_cons] at hkinds'
  have hlists' := fun l =>
    (hdiffers.listDefects_eq fun hname hkey => hlist ⟨l, hname, hkey⟩).trans (hlists l)
  simp only [defects, List.flatMap_cons, List.flatMap_nil, hkinds', hlists', hfields,
    List.nil_append, List.append_nil]
  cases s <;> simp [FieldSection.name]

end Added

/-! ### What is read of the field -/

theorem below?_integer (limit n : Int) : below? (limit + 1) (.integer n) =
    if 0 ≤ n ∧ n ≤ limit then some n.toNat else none := by
  simp only [below?, int?, Option.filter_some, decide_eq_true_eq, Int.lt_add_one_iff]
  split_ifs <;> rfl

theorem word16?_integer (n : Int) : word16? (.integer n) =
    if 0 ≤ n ∧ n ≤ 65535 then some (.ofNat n.toNat) else none := by
  have hsize : ((UInt16.size : Nat) : Int) = 65535 + 1 := rfl
  rw [word16?, hsize, below?_integer, apply_ite (Option.map UInt16.ofNat)]
  rfl

theorem word32?_integer (n : Int) : word32? (.integer n) =
    if 0 ≤ n ∧ n ≤ 4294967295 then some (.ofNat n.toNat) else none := by
  have hsize : ((UInt32.size : Nat) : Int) = 4294967295 + 1 := rfl
  rw [word32?, hsize, below?_integer, apply_ite (Option.map UInt32.ofNat)]
  rfl

namespace IntegerField

/-- The field with the values that it takes. -/
def field : IntegerField → Field
  | border => .of "border" word16?
  | snap => .of "snap" word16?
  | opacityUnfocused => .of "opacity_unfocused" int?
  | nmaster => .of "nmaster" word32?
  | ncol => .of "ncol" word32?

theorem field_mem (f : IntegerField) : f.field ∈ f.home.schema := by
  cases f <;> simp [field, home, FieldSection.schema, General.schema, Field.of]

variable {root root' : Table} {n : Int}

/-- **What is read** of the field, and that nothing else changes. -/
theorem value_of_adds (f : IntegerField) (h : Adds f.home.name f.key (.integer n) root root')
    (honce : (Value.table root).KeysOnce) (honce' : (Value.table root').KeysOnce) :
    (ofTable root').value = (f.outcome (ofTable root).value n).value := by
  have hfield : ∀ {α : Type} (k : String) (read? : Value → Option α) (default : α),
      fieldAt root' f.home.name k read? default =
        if k = f.key then (read? (.integer n)).getD default
        else fieldAt root f.home.name k read? default := by
    intro α k read? default
    split_ifs with hk
    · rw [hk, fieldAt_of_adds h]
    · exact (differsAt_of_adds h).fieldAt_eq (fun _ => hk) read? default
  have hgetD : ∀ {α : Type} (c : Prop) [Decidable c] (x default : α),
      (if c then some x else none).getD default = if c then x else default :=
    fun c _ x default => apply_ite (Option.getD · default) c (some x) none
  refine (value_ofTable_eq h.others).trans ?_
  cases f
  case border | snap =>
    simp only [home, FieldSection.name, key] at hfield
    simp only [withSection, home, FieldSection.name, String.reduceEq, ↓reduceIte,
      general_ofTable honce', hfield, word16?_integer, hgetD, outcome, upTo, set,
      general_ofTable honce]
    split_ifs <;> rfl
  case opacityUnfocused =>
    have hclamp : clampOpacity n = min (max n 0) 100 := by
      unfold clampOpacity maxOpacity
      omega
    simp only [home, FieldSection.name, key] at hfield
    simp only [withSection, home, FieldSection.name, String.reduceEq, ↓reduceIte,
      general_ofTable honce', hfield, int?, Option.getD_some, hclamp, outcome, set,
      general_ofTable honce]
  case nmaster | ncol =>
    have hlist := (differsAt_of_adds h).listed_eq (l := .layouts) (fun _ => by decide) honce honce'
    simp only [home, FieldSection.name, key] at hfield
    simp only [withSection, home, FieldSection.name, String.reduceEq, ↓reduceIte,
      layouts_ofTable honce', hlist, hfield, word32?_integer, hgetD, outcome, upTo, set,
      layouts_ofTable honce]
    split_ifs <;> rfl

/-- The warning holds the bound that the opacity was brought to. -/
theorem outOfRange_opacity (n : Int) : outOfRange n defaultMwfact =
    if 0 ≤ n ∧ n ≤ 100 then [] else [.opacityClamped n (min (max n 0) 100)] := by
  have hmwfact : (if defaultMwfact.toRat?.any fun q => 0 < q ∧ q ≤ 1 then []
      else [Warning.mwfactReplaced defaultMwfact defaultMwfact]) = [] := outOfRange_default
  rw [outOfRange, hmwfact, List.append_nil]
  split_ifs with hlow hrange hhigh hrange
  · omega
  · rw [max_eq_right (by omega), min_eq_left (by omega)]
  · omega
  · rw [max_eq_left (by omega), min_eq_right (by omega)]
  · rfl
  · omega

/-- A number beyond the limit does not fit, and nothing else is reported. -/
theorem warnings_upTo (f : IntegerField) {α : Type} {read? : Value → Option α} {limit : Int} {x : α}
    (hread : read? (.integer n) = if 0 ≤ n ∧ n ≤ limit then some x else none) (default : Int)
    (s : Settings) : (if (Field.of f.key read?).fits (.integer n) then [] else
      [.fieldInvalid f.home.name f.key]) = (f.upTo limit default s n).warnings := by
  simp only [Field.of, hread, upTo]
  by_cases hn : 0 ≤ n ∧ n ≤ limit
  · rw [if_pos hn, if_pos hn]
    rfl
  · rw [if_neg hn, if_neg hn]
    rfl

/-- **What is reported** of the field. -/
theorem warnings_of_adds (f : IntegerField) (h : Adds f.home.name f.key (.integer n) root root')
    (hnil : defects root = []) (s : Settings) : defects root' = (f.outcome s n).warnings := by
  have hkey : f.field.key = f.key := by cases f <;> rfl
  have hlist : ¬ IsList f.home.name f.key := by cases f <;> decide
  have hmwfact : fieldAt root' "layouts" "mwfact" float? defaultMwfact =
      fieldAt root "layouts" "mwfact" float? defaultMwfact :=
    (differsAt_of_adds h).fieldAt_eq (by cases f <;> decide) _ _
  have hrange := (List.append_eq_nil_iff.mp hnil).2
  rw [outOfRange_eq, List.append_eq_nil_iff] at hrange
  rw [defects_of_adds f.home f.field_mem (hkey ▸ hlist) (hkey ▸ h) hnil, outOfRange_eq, hmwfact,
    hrange.2, List.append_nil, hkey]
  have hother : f ≠ opacityUnfocused →
      outOfRange (fieldAt root' "general" "opacity_unfocused" int? 100) defaultMwfact = [] := by
    intro hne
    rw [(differsAt_of_adds h).fieldAt_eq (by cases f <;> first | decide | exact absurd rfl hne),
      hrange.1]
  cases f with
  | opacityUnfocused =>
    have hopacity : fieldAt root' "general" "opacity_unfocused" int? 100 = n :=
      fieldAt_of_adds h int? 100
    have hfits : opacityUnfocused.field.fits (.integer n) = true := rfl
    rw [hopacity, if_pos hfits, List.nil_append, outOfRange_opacity]
    rfl
  | border | snap =>
    rw [hother (by decide), List.append_nil]
    exact warnings_upTo _ (word16?_integer n) _ s
  | nmaster | ncol =>
    rw [hother (by decide), List.append_nil]
    exact warnings_upTo _ (word32?_integer n) _ s

theorem ofTable_of_adds (f : IntegerField) (h : Adds f.home.name f.key (.integer n) root root')
    (honce : (Value.table root).KeysOnce) (honce' : (Value.table root').KeysOnce)
    (hnil : defects root = []) : ofTable root' = f.outcome (ofTable root).value n := by
  have hvalue := f.value_of_adds h honce honce'
  have hwarnings := f.warnings_of_adds h hnil (ofTable root).value
  rw [← warnings_ofTable honce'] at hwarnings
  cases hread : ofTable root'
  cases hout : f.outcome (ofTable root).value n
  rw [hread, hout] at hvalue hwarnings
  exact congrArg₂ Reported.mk hvalue hwarnings

end IntegerField

theorem exists_document_of_clean {text : String} (h : (parse text).warnings = []) :
    ∃ root, document? text = some root := by
  cases hroot : document? text with
  | none =>
    rw [parse_of_none hroot] at h
    cases h
  | some root => exact ⟨root, rfl⟩

/-- A section that stands for a date form is reported. -/
theorem not_datetime_of_notTable {root : Table} {name : String} (h : notTable root name = [])
    (d : Datetime) : root.get? name ≠ some (.datetime d) := by
  intro hd
  rw [notTable, hd] at h
  cases h

/-- **The limits of whole numbers**: a number of more than 64 bits is a fault of the whole text, and
any other decides about its own field. -/
theorem whole_number_limits (f : IntegerField) (slot : Slot) {word : List Char} {n : Int}
    (hword : IntegerLiteral word n) {text valid without : String} {s : Sketch}
    (htext : sketchOf? text = some (slot.fill f.home.name f.key (some (.word word))))
    (hvalid : sketchOf? valid = some (slot.fill f.home.name f.key (some s)))
    (hdocument : (document? valid).isSome)
    (hwithout : sketchOf? without = some (slot.fill f.home.name f.key none))
    (hclean : (parse without).warnings = []) :
    parse text =
      if -0x8000000000000000 ≤ n ∧ n < 0x8000000000000000 then f.outcome (parse without).value n
      else ⟨{}, [.malformed]⟩ := by
  have hspace : ' ' ∉ word := fun h => absurd (hword.mem _ h) (by decide)
  have hvalue : (Sketch.word word).value? = (word64? n).map .integer := by
    rw [Sketch.value?_word, ofCut?, if_neg hspace, hword.ofWord?]
  split_ifs with hbits
  · rw [word64?, if_pos hbits, Option.map_some] at hvalue
    obtain ⟨root₀, hroot₀⟩ := Option.isSome_iff_exists.mp hdocument
    obtain ⟨root, hroot⟩ := exists_document_of_clean hclean
    rw [parse_of_document hroot] at hclean ⊢
    have honce := keysOnce_of_document hroot
    have hnil : defects root = [] := (warnings_ofTable honce).symm.trans hclean
    have hkey : f.key ≠ reservedDateKey := by cases f <;> decide
    have hname : notTable root f.home.name = [] :=
      (parts_of_defects_nil hnil).1 f.home.name (by cases f <;> decide)
    obtain ⟨root', hroot', hadds⟩ := slot.exists_adds hkey hvalue rfl htext hvalid hwithout hroot₀
      hroot (not_datetime_of_notTable hname)
    rw [parse_of_document hroot']
    exact f.ofTable_of_adds hadds honce (keysOnce_of_document hroot') hnil
  · rw [word64?, if_neg hbits, Option.map_none] at hvalue
    refine parse_of_none ?_
    rw [document?, slot.parse?_eq_none hvalue htext]
    rfl

/-- A number beyond the limit of `border`, with a sign and an underscore. -/
theorem whole_number_limits_border :
    parse "[general]\nsnap = 3\nborder = +70_000\n" =
      ⟨{ general := { border := 1, snap := 3 } }, [.fieldInvalid "general" "border"]⟩ := by
  have hdigits : Grouped 10 ['7', '0', '_', '0', '0', '0'] ['7', '0', '0', '0', '0'] :=
    .next (by decide) (.apart (by decide) (.next (by decide) (.next (by decide)
      (.last (by decide)))))
  have hword : IntegerLiteral ['+', '7', '0', '_', '0', '0', '0'] 70000 :=
    .plus hdigits (.inr (by decide))
  have hroot : document? "[general]\nsnap = 3\n" =
      some [("general", .table [("snap", .integer 3)])] := by decide +kernel
  have hrange : InRange { general := { snap := 3 } } :=
    ⟨by decide, by decide, inRange_default.mwfact_pos, inRange_default.mwfact_le⟩
  have hread : parse "[general]\nsnap = 3\n" = ⟨{ general := { snap := 3 } }, []⟩ := by
    rw [parse_of_document hroot]
    refine ofTable_eq_of_strict (keysOnce_of_document hroot) (fun l v hv => ?_) rfl hrange
      fun l htitled t ht d => ?_
    · cases l <;> cases hv
    · cases l <;> cases ht
  have hslot := whole_number_limits .border (.below [] [(([], "snap"), .word ['3'])] []) hword
    (show sketchOf? "[general]\nsnap = 3\nborder = +70_000\n" = _ by decide +kernel)
    (show sketchOf? "[general]\nsnap = 3\nborder = ''\n" =
      some (Slot.fill "general" "border" (some (.text "")) _) by decide +kernel)
    (by decide +kernel) (show sketchOf? "[general]\nsnap = 3\n" = _ by decide +kernel)
    (congrArg Reported.warnings hread)
  rw [hslot, hread]
  rfl

end WmConfig.Settings
