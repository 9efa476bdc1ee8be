import WmConfig.Proofs.Toml.Assembly

/-! # Documents put together step by step

The lines below a header are put into its table all at once. It comes to the same to open the table
first and to add the lines to it one by one (`assemble?_eq_run`), so a document is a sequence of
steps, one for each of its expressions. -/

namespace WmConfig.Toml

/-! ### One line after another -/

/-- The path of a header, its own key included. -/
def Header.path (h : Header) : List String := h.parents ++ [h.key]

namespace Entries

/-- Adds a key with its value to the table at the end of a path. -/
def putAt? (path : List String) (line : KeyLine) (root : Entries) : Option Entries :=
  editAt? .implied (fun _ t => put? line t) path .header root

theorem putAt?_nil (line : KeyLine) (root : Entries) : putAt? [] line root = put? line root := rfl

theorem putAll?_concat (lines : List KeyLine) (line : KeyLine) (t : Entries) :
    putAll? (lines ++ [line]) t = (putAll? lines t).bind (put? line) := by
  rw [putAll?, putAll?, List.foldlM_append]
  cases lines.foldlM (fun t l => put? l t) t with
  | none => rfl
  | some t' => simp

/-- A further line goes into the table that the header has started. -/
theorem open?_concat (h : Header) (lines : List KeyLine) (line : KeyLine) (node : Option Node) :
    Block.open? ⟨h, lines ++ [line]⟩ node =
      (Block.open? ⟨h, lines⟩ node).bind fun new => into? .implied (fun _ => put? line) (some new) := by
  rcases node with _ | (v | ⟨_ | _ | _, sub⟩ | items)
  · simp only [Block.open?, putAll?_concat]
    cases putAll? lines [] with
    | none => rfl
    | some new => cases h.isList <;> simp [into?, alterLast?, Function.comp_def]
  · rfl
  · rfl
  · cases hlist : h.isList with
    | true => simp [Block.open?, hlist]
    | false =>
      simp only [Block.open?, hlist, putAll?_concat]
      cases putAll? lines sub with
      | none => rfl
      | some new => simp [into?]
  · rfl
  · cases hlist : h.isList with
    | true =>
      simp only [Block.open?, hlist, putAll?_concat]
      cases putAll? lines [] with
      | none => rfl
      | some new => simp [into?, alterLast?_concat, Function.comp_def]
    | false => simp [Block.open?, hlist]

theorem addHere_concat (h : Header) (lines : List KeyLine) (line : KeyLine) (t : Entries) :
    Block.addHere ⟨h, lines ++ [line]⟩ t = (Block.addHere ⟨h, lines⟩ t).bind
      (alter? h.key (into? .implied fun _ => put? line)) := by
  rw [Block.addHere, Block.addHere]
  split_ifs
  · rw [alter?_bind]
    exact congrArg (alter? h.key · t) (funext (open?_concat h lines line))
  · simp only [open?_concat]
    cases Block.open? ⟨h, lines⟩ (t.lookup h.key) with
    | none => rfl
    | some node =>
      have hothers : h.key ∉ (t.filter (·.1 != h.key)).map Prod.fst :=
        lookup_eq_none_iff.mp (lookup_filter_self _ _)
      rw [Option.map_some, Option.bind_some, Option.bind_some, alter?_append hothers, alter?,
        if_pos rfl, Option.map_map]
      rfl

/-- A line below a header goes into the table that the header has opened. -/
theorem addTable?_concat (h : Header) (lines : List KeyLine) (line : KeyLine) (root : Entries) :
    addTable? h (lines ++ [line]) root = (addTable? h lines root).bind (putAt? h.path line) := by
  have hput : putAt? h.path line = editAt? .implied
      (fun _ => alter? h.key (into? .implied fun _ => put? line)) h.parents .header := by
    funext root
    exact (editAt?_append _ _ _ _ _ _).trans
      (congrArg (editAt? .implied · h.parents .header root) (funext fun _ => editAt?_cons _ _ _ _ _))
  rw [hput, addTable?_eq ⟨h, lines ++ [line]⟩, addTable?_eq ⟨h, lines⟩, editAt?_bind]
  congr 1
  funext _ t
  exact addHere_concat h lines line t

theorem addTable?_lines (h : Header) (root : Entries) (lines' : List KeyLine) :
    ∀ lines : List KeyLine, addTable? h (lines' ++ lines) root =
      (addTable? h lines' root).bind (lines.foldlM fun root line => putAt? h.path line root) := by
  intro lines
  induction lines generalizing lines' with
  | nil => simp
  | cons line lines ih =>
    rw [List.append_cons, ih, addTable?_concat, Option.bind_assoc]
    rfl

end Entries

/-! ### Steps -/

/-- A document as far as it is read. -/
structure Progress where
  /-- The path to the table that key lines go into. -/
  path : List String
  /-- What the document comes to so far. -/
  root : Entries

namespace Progress

/-- One expression. -/
def step? (p : Progress) : Expression → Option Progress
  | .keyLine line => (Entries.putAt? p.path line p.root).map (⟨p.path, ·⟩)
  | .header h => (Entries.addTable? h [] p.root).map (⟨h.path, ·⟩)

/-- Several expressions. -/
def run? (es : List Expression) (p : Progress) : Option Progress := es.foldlM step? p

theorem run?_eq_blocks : ∀ (es : List Expression) (p : Progress),
    (run? es p).map Progress.root =
      ((blocks es).1.foldlM (fun root line => Entries.putAt? p.path line root) p.root).bind
        ((blocks es).2.foldlM fun root b => Entries.addTable? b.header b.lines root)
  | [], p => rfl
  | .keyLine line :: es, p => by
    rw [run?, List.foldlM_cons, blocks, List.foldlM_cons, step?]
    cases hput : Entries.putAt? p.path line p.root with
    | none => rfl
    | some root => exact run?_eq_blocks es ⟨p.path, root⟩
  | .header h :: es, p => by
    rw [run?, List.foldlM_cons, blocks, List.foldlM_nil, step?]
    have hblock := Entries.addTable?_lines h p.root [] (blocks es).1
    rw [List.nil_append] at hblock
    simp only [Option.pure_def, Option.bind_some, List.foldlM_cons, hblock]
    cases hopen : Entries.addTable? h [] p.root with
    | none => rfl
    | some root => exact run?_eq_blocks es ⟨h.path, root⟩

end Progress

/-- **A document is put together step by step.** -/
theorem assemble?_eq_run (es : List Expression) :
    assemble? es = (Progress.run? es ⟨[], []⟩).map fun p => Entries.toTable p.root := by
  have hblocks := Progress.run?_eq_blocks es ⟨[], []⟩
  have hroot : assemble? es =
      ((Progress.run? es ⟨[], []⟩).map Progress.root).map Entries.toTable := by
    rw [hblocks, Option.map_eq_bind, Option.bind_assoc]
    rfl
  rw [hroot, Option.map_map]
  rfl

end WmConfig.Toml
