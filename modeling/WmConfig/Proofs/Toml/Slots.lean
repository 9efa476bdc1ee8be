import WmConfig.Proofs.Toml.Replaced
import WmConfig.Proofs.Toml.Sketch

/-! # The value of a key of a section in a text

A key of a section can be given its value in three places of a text: below the header of the
section, by a dotted key at the top of the document, or in an inline table there. A `Slot` is a text
around such a place, with its words unread; it can be filled with any value, or left without the
key. If it is a document with some value in the slot, then it is one with any other, and without the
key, and the rest of the document is the same (`Slot.exists_parse?`); with a word that stands for no
value it is none (`Slot.parse?_eq_none`). -/

namespace WmConfig.Toml

/-! ### Slots -/

/-- A text around the value of a key of a section, with its words unread. -/
inductive Slot where
  /-- Below the header of the section. -/
  | below (before : List SketchLine) (above : List SketchKey) (after : List SketchLine)
  /-- By a dotted key at the top of the document. -/
  | dotted (above : List SketchKey) (after : List SketchLine)
  /-- In an inline table at the top of the document. -/
  | inline (above first last : List SketchKey) (after : List SketchLine)

/-- The lines that give the key its value: one, or none. -/
def written (parents : List String) (key : String) (value : Option Sketch) : List SketchKey :=
  value.toList.map fun s => ((parents, key), s)

/-- The text with the value in the slot, or without the key. -/
def Slot.fill (name key : String) (value : Option Sketch) : Slot → List SketchLine
  | below before above after =>
    before ++ .header ⟨[], name, false⟩ ::
      ((above ++ written [] key value).map SketchKey.line ++ after)
  | dotted above after => (above ++ written [name] key value).map SketchKey.line ++ after
  | inline above first last after =>
    (above ++ [(([], name), Sketch.inline (first ++ written [] key value ++ last))]).map
      SketchKey.line ++ after

section Slots
variable {parents : List String} {name key : String} {s : Sketch} {value : Option Sketch}
  {new : Option Value}

theorem mapM_written (h : value.map Sketch.value? = new.map some) :
    (written parents key value).mapM SketchKey.keyLine? = some (given parents key new) := by
  cases value with
  | none =>
    cases new with
    | none => rfl
    | some v => cases h
  | some s =>
    cases new with
    | none => cases h
    | some v =>
      have hvalue : s.value? = some v := Option.some.inj h
      simp [written, given, SketchKey.keyLine?, hvalue]

theorem of_mapM_written {lines : List KeyLine}
    (h : (written parents key (some s)).mapM SketchKey.keyLine? = some lines) :
    ∃ v, lines = given parents key (some v) := by
  obtain ⟨line, rest, hline, hrest, rfl⟩ := mapM_cons_eq_some_iff.mp h
  obtain ⟨v, -, rfl⟩ := Option.map_eq_some_iff.mp hline
  obtain rfl := Option.some.inj hrest
  exact ⟨v, rfl⟩

/-- Lines among which the slot is, read with another value in it. -/
theorem exists_given {above : List SketchKey} {lines : List KeyLine}
    (hvalue : value.map Sketch.value? = new.map some)
    (h : (above ++ written parents key (some s)).mapM SketchKey.keyLine? = some lines) :
    ∃ v front, lines = front ++ given parents key (some v) ∧
      (above ++ written parents key value).mapM SketchKey.keyLine? =
        some (front ++ given parents key new) := by
  obtain ⟨front, first, hfront, hfirst, rfl⟩ := mapM_append_eq_some_iff.mp h
  obtain ⟨v, rfl⟩ := of_mapM_written hfirst
  exact ⟨v, front, rfl, mapM_append_eq_some_iff.mpr ⟨_, _, hfront, mapM_written hvalue, rfl⟩⟩

theorem mapM_lines_eq_some_iff {lines : List SketchKey} {after : List SketchLine}
    {es : List Expression} :
    (lines.map SketchKey.line ++ after).mapM SketchLine.expression? = some es ↔
      ∃ front back, lines.mapM SketchKey.keyLine? = some front ∧
        after.mapM SketchLine.expression? = some back ∧ front.map .keyLine ++ back = es := by
  rw [mapM_append_eq_some_iff, SketchKey.mapM_line]
  constructor
  · rintro ⟨_, back, hkeyLines, h⟩
    obtain ⟨front, hfront, rfl⟩ := Option.map_eq_some_iff.mp hkeyLines
    exact ⟨front, back, hfront, h⟩
  · rintro ⟨front, back, hfront, h⟩
    exact ⟨_, back, Option.map_eq_some_iff.mpr ⟨front, hfront, rfl⟩, h⟩

/-- An inline table in which the slot is, read with another value in it. -/
theorem exists_given_inline {first last : List SketchKey} {v : Value}
    (hvalue : value.map Sketch.value? = new.map some)
    (h : (Sketch.inline (first ++ written [] key (some s) ++ last)).value? = some v) :
    ∃ w front back sub, v = .table (Entries.toTable sub) ∧
      Entries.putAll? (front ++ given [] key (some w) ++ back) [] = some sub ∧
      ∀ sub', Entries.putAll? (front ++ given [] key new ++ back) [] = some sub' →
        (Sketch.inline (first ++ written [] key value ++ last)).value? =
          some (.table (Entries.toTable sub')) := by
  rw [Sketch.value?_inline] at h
  obtain ⟨lines, hlines, h⟩ := Option.bind_eq_some_iff.mp h
  obtain ⟨sub, hsub, rfl⟩ := Option.map_eq_some_iff.mp h
  obtain ⟨lines, back, hfront, hback, rfl⟩ := mapM_append_eq_some_iff.mp hlines
  obtain ⟨w, front, rfl, hother⟩ := exists_given hvalue hfront
  refine ⟨w, front, back, sub, rfl, hsub, fun sub' hsub' => ?_⟩
  have hlines' := mapM_append_eq_some_iff.mpr ⟨_, _, hother, hback, rfl⟩
  rw [Sketch.value?_inline, hlines', Option.bind_some, hsub']
  rfl

namespace Slot

/-- **The rest of a document does not depend on the value in a slot.** -/
theorem exists_replaced (slot : Slot) {es : List Expression} {t : Table}
    (hes : (slot.fill name key (some s)).mapM SketchLine.expression? = some es)
    (ht : assemble? es = some t) (hvalue : value.map Sketch.value? = new.map some) :
    ∃ es' t', (slot.fill name key value).mapM SketchLine.expression? = some es' ∧
      assemble? es' = some t' ∧ Replaced name key new t t' := by
  cases slot with
  | below before above after =>
    obtain ⟨front, _, hbefore, hbelow, rfl⟩ := mapM_append_eq_some_iff.mp hes
    obtain ⟨e, _, he, htail, rfl⟩ := mapM_cons_eq_some_iff.mp hbelow
    obtain ⟨_, back, hlines, hafter, rfl⟩ := mapM_lines_eq_some_iff.mp htail
    obtain ⟨v, lines, rfl, hother⟩ := exists_given hvalue hlines
    obtain rfl := Option.some.inj he
    obtain ⟨t', ht', hreplaced⟩ := exists_replaced_below new ht
    have htail' := mapM_lines_eq_some_iff.mpr ⟨_, _, hother, hafter, rfl⟩
    have hbelow' := mapM_cons_eq_some_iff.mpr ⟨_, _, he, htail', rfl⟩
    exact ⟨_, t', mapM_append_eq_some_iff.mpr ⟨_, _, hbefore, hbelow', rfl⟩, ht', hreplaced⟩
  | dotted above after =>
    obtain ⟨_, back, hlines, hafter, rfl⟩ := mapM_lines_eq_some_iff.mp hes
    obtain ⟨v, lines, rfl, hother⟩ := exists_given hvalue hlines
    obtain ⟨t', ht', hreplaced⟩ := exists_replaced_dotted new ht
    exact ⟨_, t', mapM_lines_eq_some_iff.mpr ⟨_, _, hother, hafter, rfl⟩, ht', hreplaced⟩
  | inline above first last after =>
    obtain ⟨_, back, hlines, hafter, rfl⟩ := mapM_lines_eq_some_iff.mp hes
    obtain ⟨lines, _, habove, hsingle, rfl⟩ := mapM_append_eq_some_iff.mp hlines
    obtain ⟨_, _, hline, hnil, rfl⟩ := mapM_cons_eq_some_iff.mp hsingle
    obtain rfl := Option.some.inj hnil
    obtain ⟨v, htable, rfl⟩ := Option.map_eq_some_iff.mp hline
    obtain ⟨w, firsts, lasts, sub, rfl, hsub, hother⟩ := exists_given_inline hvalue htable
    obtain ⟨sub', t', hsub', ht', hreplaced⟩ := exists_replaced_inline new hsub ht
    have hline' : SketchKey.keyLine? (([], name),
        .inline (first ++ written [] key value ++ last)) =
          some ⟨[], name, .table (Entries.toTable sub')⟩ :=
      Option.map_eq_some_iff.mpr ⟨_, hother sub' hsub', rfl⟩
    have hsingle' := mapM_cons_eq_some_iff.mpr ⟨_, _, hline', hnil, rfl⟩
    have hlines' := mapM_append_eq_some_iff.mpr ⟨_, _, habove, hsingle', rfl⟩
    exact ⟨_, t', mapM_lines_eq_some_iff.mpr ⟨_, _, hlines', hafter, rfl⟩, ht', hreplaced⟩

/-- A word that stands for no value is a fault of the whole text. -/
theorem mapM_eq_none (hs : s.value? = none) (slot : Slot) :
    (slot.fill name key (some s)).mapM SketchLine.expression? = none := by
  have hline : ∀ parents, SketchKey.keyLine? ((parents, key), s) = none := by
    intro parents
    rw [SketchKey.keyLine?, hs]
    rfl
  have hexpression : ∀ parents, (SketchKey.line ((parents, key), s)).expression? = none := by
    intro parents
    rw [SketchKey.expression?_line, hline]
    rfl
  cases slot with
  | below before above after => exact Toml.mapM_eq_none (hexpression []) (by simp [fill, written])
  | dotted above after => exact Toml.mapM_eq_none (hexpression [name]) (by simp [fill, written])
  | inline above first last after =>
    have hvalue : (Sketch.inline (first ++ written [] key (some s) ++ last)).value? = none := by
      rw [Sketch.value?_inline, Toml.mapM_eq_none (hline []) (by simp [written])]
      rfl
    have hinline : (SketchKey.line (([], name),
        .inline (first ++ written [] key (some s) ++ last))).expression? = none := by
      rw [SketchKey.expression?_line, SketchKey.keyLine?, hvalue]
      rfl
    exact Toml.mapM_eq_none hinline (by simp [fill])

theorem parse?_eq_none (slot : Slot) (hs : s.value? = none) {text : String}
    (htext : sketchOf? text = some (slot.fill name key (some s))) : parse? text = none := by
  rw [parse?_eq_mapM, htext, Option.bind_some, slot.mapM_eq_none hs]
  rfl

theorem exists_parse? (slot : Slot) {text text' : String} {t : Table}
    (htext : sketchOf? text = some (slot.fill name key (some s))) (ht : parse? text = some t)
    (htext' : sketchOf? text' = some (slot.fill name key value))
    (hvalue : value.map Sketch.value? = new.map some) :
    ∃ t', parse? text' = some t' ∧ Replaced name key new t t' := by
  rw [parse?_eq_mapM, htext, Option.bind_some] at ht
  obtain ⟨es, hes, ht⟩ := Option.bind_eq_some_iff.mp ht
  obtain ⟨es', t', hes', ht', hreplaced⟩ := slot.exists_replaced hes ht hvalue
  refine ⟨t', ?_, hreplaced⟩
  rw [parse?_eq_mapM, htext', Option.bind_some, hes']
  exact ht'

end Slot

end Slots

end WmConfig.Toml
