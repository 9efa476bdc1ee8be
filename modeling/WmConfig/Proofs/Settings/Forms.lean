import WmConfig.Proofs.Settings.Alike
import WmConfig.Proofs.Toml.Contents

/-! # Settings in several forms

Which of its forms a section is written in makes no difference to what is read of it and to what is
reported, whatever the forms of the other sections are (`forms_ignored`). -/

namespace WmConfig.Settings

open Toml

/-! ### Documents with the same contents -/

/-- The list of the content, if it has one, is the list of the section. -/
def ListFits (c : Content) : Prop := ∀ l ∈ c.list, IsList c.name l.1

theorem notTable_of_held {c : Content} {root : Table} (h : c.Held (root.get? c.name)) :
    notTable root c.name = [] := by
  unfold notTable
  generalize root.get? c.name = v at h
  cases h <;> rfl

theorem forall₂_items {fss fss₁ fss₂ : List Fields} (hfss : ∀ fs ∈ fss, fs.Sound)
    (h₁ : List.Forall₂ List.Perm fss fss₁) (h₂ : List.Forall₂ List.Perm fss fss₂) :
    List.Forall₂ SameItem (fss₁.map fun fs => .table fs.table)
      (fss₂.map fun fs => .table fs.table) := by
  induction h₁ generalizing fss₂ with
  | nil =>
    cases h₂
    exact .nil
  | cons hfs₁ _ ih =>
    cases h₂ with
    | cons hfs₂ h₂ =>
      obtain ⟨hfs, hfss⟩ := List.forall_mem_cons.mp hfss
      refine .cons (.table fun key => ?_) (ih hfss h₂)
      rw [hfs.get?_perm hfs₁, hfs.get?_perm hfs₂]

namespace ListSection

variable {l : ListSection} {root root' : Table}

theorem items_congr (h : valueAt? root l.name l.key = valueAt? root' l.name l.key) :
    l.items root = l.items root' := by
  unfold items itemsOf
  rw [show (sectionAt? root l.name).bind (Table.get? · l.key) = _ from h]
  rfl

theorem items_array {items : List Value}
    (h : valueAt? root l.name l.key = some (.array items)) : l.items root = items := by
  unfold ListSection.items itemsOf
  rw [show (sectionAt? root l.name).bind (Table.get? · l.key) = _ from h]

theorem items_none (h : valueAt? root l.name l.key = none) : l.items root = [] := by
  unfold items itemsOf
  rw [show (sectionAt? root l.name).bind (Table.get? · l.key) = _ from h]

/-- A section has one list. -/
theorem eq_key_of_isList {key : String} (h : IsList l.name key) : key = l.key := by
  obtain ⟨l', hname, rfl⟩ := h
  cases l <;> cases l' <;> first | rfl | exact absurd hname (by decide)

end ListSection

section Contents
variable {c : Content} (hc : c.Sound) (hlist : ListFits c) {root root' : Table}
  (h : c.Held (root.get? c.name)) (h' : c.Held (root'.get? c.name))
include hc hlist h

theorem valueAt?_of_held {key : String} (hkey : ¬ IsList c.name key) :
    valueAt? root c.name key = Table.get? c.fields.table key :=
  h.get?_field hc fun l hl heq => hkey (heq ▸ hlist l hl)

omit hlist in
theorem items_of_held {l : ListSection} (hname : l.name = c.name) {fss : List Fields}
    (hl : c.list = some (l.key, fss)) :
    ∃ fss' : List Fields, List.Forall₂ List.Perm fss fss' ∧
      l.items root = fss'.map fun fs => .table fs.table := by
  obtain ⟨fss', hperm, hvalue⟩ := h.get?_list hc hl
  refine ⟨fss', hperm, ?_⟩
  rw [← hname] at hvalue
  rcases hvalue with hvalue | ⟨rfl, hvalue⟩
  · exact ListSection.items_array hvalue
  · exact ListSection.items_none hvalue

include h' in
theorem forall₂_items_of_held {l : ListSection} (hname : l.name = c.name) :
    List.Forall₂ SameItem (l.items root) (l.items root') := by
  cases hl : c.list with
  | none =>
    have hvalue : valueAt? root l.name l.key = valueAt? root' l.name l.key := by
      rw [hname]
      exact (h.get?_field hc (by simp [hl])).trans (h'.get?_field hc (by simp [hl])).symm
    rw [ListSection.items_congr hvalue]
    exact List.forall₂_same.mpr fun v _ => .refl v
  | some list =>
    obtain ⟨key, fss⟩ := list
    obtain rfl : key = l.key := ListSection.eq_key_of_isList (hname ▸ hlist _ hl)
    obtain ⟨fss₁, hperm₁, hitems₁⟩ := items_of_held hc h hname hl
    obtain ⟨fss₂, hperm₂, hitems₂⟩ := items_of_held hc h' hname hl
    rw [hitems₁, hitems₂]
    exact forall₂_items (hc.entries _ hl) hperm₁ hperm₂

end Contents

/-- **Documents with the same contents are alike.** -/
theorem alike_of_holdsOnly {cs : List Content} (hcs : ∀ c ∈ cs, c.Sound)
    (hlists : ∀ c ∈ cs, ListFits c) {root root' : Table} (h : HoldsOnly cs root)
    (h' : HoldsOnly cs root') : Alike root root' := by
  -- Outside the contents, neither of the documents has anything.
  have hcases : ∀ name, (∃ c ∈ cs, c.name = name) ∨ root.get? name = root'.get? name := by
    intro name
    by_cases hname : name ∈ cs.map Content.name
    · exact .inl (List.mem_map.mp hname)
    · exact .inr ((h.others name hname).trans (h'.others name hname).symm)
  refine ⟨fun name => ?_, fun name key hkey => ?_, fun l => ?_⟩
  · rcases hcases name with ⟨c, hc, rfl⟩ | hget
    · rw [notTable_of_held (h.sections c hc), notTable_of_held (h'.sections c hc)]
    · rw [notTable, notTable, hget]
  · rcases hcases name with ⟨c, hc, rfl⟩ | hget
    · rw [valueAt?_of_held (hcs c hc) (hlists c hc) (h.sections c hc) hkey,
        valueAt?_of_held (hcs c hc) (hlists c hc) (h'.sections c hc) hkey]
    · rw [valueAt?, valueAt?, sectionAt?, sectionAt?, hget]
  · rcases hcases l.name with ⟨c, hc, hname⟩ | hget
    · exact forall₂_items_of_held (hcs c hc) (hlists c hc) (h.sections c hc) (h'.sections c hc)
        hname.symm
    · have hvalue : valueAt? root l.name l.key = valueAt? root' l.name l.key := by
        rw [valueAt?, valueAt?, sectionAt?, sectionAt?, hget]
      rw [ListSection.items_congr hvalue]
      exact List.forall₂_same.mpr fun v _ => .refl v

/-! ### Texts -/

/-- **Forms are ignored.** Sections can be written each in any form, whatever they say; and a text
that writes them in some forms is read as the same settings, with the same reports, as any text that
writes them in other forms. -/
theorem forms_ignored {cs : List Content} (hcs : ∀ c ∈ cs, c.Sound)
    (hnames : (cs.map Content.name).Nodup) (hlists : ∀ c ∈ cs, ListFits c)
    (form form' : String → Form) :
    (∃ text, Spells cs form text) ∧
      ∀ text text', Spells cs form text → Spells cs form' text' → parse text = parse text' := by
  refine ⟨exists_spells hcs hnames form, fun text text' h h' => ?_⟩
  obtain ⟨root, hroot, hholds⟩ := exists_document_of_spells hcs h
  obtain ⟨root', hroot', hholds'⟩ := exists_document_of_spells hcs h'
  rw [parse_of_document hroot, parse_of_document hroot']
  exact (alike_of_holdsOnly hcs hlists hholds hholds').ofTable_eq (keysOnce_of_document hroot)
    (keysOnce_of_document hroot')

/-- Dotted keys with an array and a header, against an inline table and headers for the entries. -/
theorem forms_ignored_mixed :
    parse "tags.tag = [\x7btitle = 'a', layout = 'b'\x7d, \x7b\x7d]\n[general]\nborder = -1\n" =
      parse ("general = \x7bborder = -1\x7d\n[tags]\n[[tags.tag]]\nlayout = 'b'\n" ++
        "title = 'a'\n[[tags.tag]]\n") := by
  have hread : statementsOf?
      "tags.tag = [\x7btitle = 'a', layout = 'b'\x7d, \x7b\x7d]\n[general]\nborder = -1\n" =
        some [.keyLine ["tags"] "tag" (.array [.inline [(([], "title"), .single (.string "a")),
            (([], "layout"), .single (.string "b"))], .inline []]),
          .header ⟨[], "general", false⟩, .keyLine [] "border" (.single (.integer (-1)))] := by
    decide +kernel
  have hread' : statementsOf?
      ("general = \x7bborder = -1\x7d\n[tags]\n[[tags.tag]]\nlayout = 'b'\n" ++
        "title = 'a'\n[[tags.tag]]\n") =
        some [.keyLine [] "general" (.inline [(([], "border"), .single (.integer (-1)))]),
          .header ⟨[], "tags", false⟩, .header ⟨["tags"], "tag", true⟩,
          .keyLine [] "layout" (.single (.string "b")), .keyLine [] "title" (.single (.string "a")),
          .header ⟨["tags"], "tag", true⟩] := by decide +kernel
  have hspells : Spells
      [⟨"general", [("border", .integer (-1))], none⟩,
        ⟨"tags", [], some ("tag", [[("title", .text "a"), ("layout", .text "b")], []])⟩]
      (fun name => if name = "tags" then .dotted else .array)
      "tags.tag = [\x7btitle = 'a', layout = 'b'\x7d, \x7b\x7d]\n[general]\nborder = -1\n" := by
    refine ⟨[((["tags"], "tag"), _)], [⟨⟨[], "general", false⟩, [("border", _)]⟩], hread,
      by decide, by decide, List.forall_mem_cons.mpr ⟨?_, List.forall_mem_singleton.mpr ?_⟩⟩
    · exact .array (.refl _) (.refl _)
    · exact .dotted (.refl _) (.refl _)
  have hspells' : Spells
      [⟨"general", [("border", .integer (-1))], none⟩,
        ⟨"tags", [], some ("tag", [[("title", .text "a"), ("layout", .text "b")], []])⟩]
      (fun name => if name = "tags" then .blocks else .inline)
      ("general = \x7bborder = -1\x7d\n[tags]\n[[tags.tag]]\nlayout = 'b'\n" ++
        "title = 'a'\n[[tags.tag]]\n") := by
    refine ⟨[(([], "general"), _)], [⟨⟨[], "tags", false⟩, []⟩,
        ⟨⟨["tags"], "tag", true⟩, [("layout", _), ("title", _)]⟩, ⟨⟨["tags"], "tag", true⟩, []⟩],
      hread', by decide, by decide, List.forall_mem_cons.mpr ⟨?_, List.forall_mem_singleton.mpr ?_⟩⟩
    · exact .inline (.refl _) (.refl _)
    · exact @Content.Spelled.blocks _
        ⟨"tags", [], some ("tag", [[("layout", .text "b"), ("title", .text "a")], []])⟩
        ⟨rfl, .refl _, .some ⟨rfl, .cons (.swap _ _ _) (.cons (.refl _) .nil)⟩⟩
  refine (forms_ignored ?_ (by decide) ?_ _ _).2 _ _ hspells hspells'
  · refine List.forall_mem_cons.mpr ⟨⟨by decide, ⟨by decide, by decide⟩, by simp, by simp⟩,
      List.forall_mem_singleton.mpr ⟨by decide, ⟨by decide, by decide⟩, ?_, ?_⟩⟩
    · rintro _ ⟨⟩
      decide
    · rintro _ ⟨⟩
      exact List.forall_mem_cons.mpr ⟨⟨by decide, by decide⟩,
        List.forall_mem_singleton.mpr ⟨by decide, by decide⟩⟩
  · refine List.forall_mem_cons.mpr ⟨by rintro _ ⟨⟩, List.forall_mem_singleton.mpr ?_⟩
    rintro _ ⟨⟩
    decide

end WmConfig.Settings
