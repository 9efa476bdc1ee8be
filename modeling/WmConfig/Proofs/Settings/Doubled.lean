import WmConfig.Proofs.Settings.Sections
import WmConfig.Proofs.Toml.Draft
import WmConfig.Proofs.Toml.Taken

/-! # Keys given twice

A document that gives a key of a table twice is no document: neither the first value nor the last
one counts, and nothing is merged. Every way to give a key twice ends so, at any distance and
whatever stands between (`doubled_refused`): two key lines, plain, dotted or in an inline table; the
same header twice; a header for what a key line gives as a value. -/

namespace WmConfig.Toml

/-! ### Places -/

/-- Where an expression of a document puts something. -/
inductive Place where
  /-- A key line, with its path below the header in force. -/
  | line (path : List String)
  /-- A header, with its path, and whether it is the header of a list. -/
  | header (path : List String) (isList : Bool)

namespace Place

/-- The path of the header in force after the place. -/
def next (under : List String) : Place → List String
  | line _ => under
  | header path _ => path

/-- The path of the header in force after several places. -/
def below (places : List Place) : List String := places.foldl next []

/-- The path from the top of the document, where `under` is the path of the header in force. -/
def path (under : List String) : Place → List String
  | line path => under ++ path
  | header path _ => path

/-- The place starts a further table of a list, and the path leads into that list. -/
def Restarts (into : List String) : Place → Prop
  | line _ => False
  | header path isList => isList = true ∧ path <+: into ∧ path ≠ into

end Place

/-- The place of an expression. -/
def Expression.place : Expression → Place
  | .keyLine line => .line line.path
  | .header h => .header h.path h.isList

/-- The place of a statement. -/
def Statement.place : Statement → Place
  | .keyLine parents key _ => .line (parents ++ [key])
  | .header h => .header h.path h.isList

/-- **The second place gives a key once more** that the first one gives, where `under` and `under'`
are the paths of the headers in force at the two. -/
inductive Twice (under under' : List String) : Place → Place → Prop
  /-- Two key lines give the same key, or one gives a key within what the other gives. -/
  | lines {path path' : List String}
      (h : under ++ path <+: under' ++ path' ∨ under' ++ path' <+: under ++ path) :
      Twice under under' (.line path) (.line path')
  /-- A header opens what a key line gives as a value, or a table within it. -/
  | header {path path' : List String} {isList : Bool} (h : under ++ path <+: path') :
      Twice under under' (.line path) (.header path' isList)
  /-- Two headers open the same table. -/
  | headers {path : List String} {isList : Bool} :
      Twice under under' (.header path false) (.header path isList)
  /-- A key line above gives what a header opens, or a key within it. -/
  | line {path path' : List String} (habove : under' <+: path) (hne : under' ≠ path)
      (h : path <+: under' ++ path' ∨ under' ++ path' <+: path) :
      Twice under under' (.header path false) (.line path')

/-- Some key is given twice, and the table that holds it is not started again in between. -/
inductive Doubled : List Place → Prop
  | intro (before : List Place) {first : Place} (between : List Place) {second : Place}
      (after : List Place)
      (h : Twice (Place.below before) (Place.below (before ++ first :: between)) first second)
      (hsame : ∀ p ∈ between, ¬ p.Restarts (first.path (Place.below before))) :
      Doubled (before ++ first :: between ++ second :: after)

/-! ### Steps -/

namespace Progress

variable {p p' : Progress} {e : Expression} {u : Use} {path : List String}

theorem path_step? (h : step? p e = some p') : p'.path = e.place.next p.path := by
  cases e with
  | keyLine line =>
    obtain ⟨root, -, rfl⟩ := Option.map_eq_some_iff.mp h
    rfl
  | header header =>
    obtain ⟨root, -, rfl⟩ := Option.map_eq_some_iff.mp h
    rfl

theorem path_run? : ∀ {es : List Expression} {p p' : Progress}, run? es p = some p' →
    p'.path = (es.map Expression.place).foldl Place.next p.path
  | [], p, p', h => by rw [← Option.some.inj h]; rfl
  | e :: es, p, p', h => by
    obtain ⟨q, hq, h⟩ := Option.bind_eq_some_iff.mp h
    rw [path_run? h, path_step? hq]
    rfl

/-- **A step leaves taken keys taken**, if it does not start their list again. -/
theorem takes_step? (h : step? p e = some p') (hsame : ¬ e.place.Restarts path)
    (ht : Entries.Takes u path p.root) : Entries.Takes u path p'.root := by
  cases e with
  | keyLine line =>
    obtain ⟨root, hroot, rfl⟩ := Option.map_eq_some_iff.mp h
    exact ht.putAt? hroot
  | header header =>
    obtain ⟨root, hroot, rfl⟩ := Option.map_eq_some_iff.mp h
    exact ht.addTable? hroot hsame

/-- So do several steps. -/
theorem takes_run? : ∀ {es : List Expression} {p p' : Progress}, run? es p = some p' →
    (∀ e ∈ es, ¬ e.place.Restarts path) → Entries.Takes u path p.root →
      Entries.Takes u path p'.root
  | [], p, p', h, _, ht => by rwa [← Option.some.inj h]
  | e :: es, p, p', h, hsame, ht => by
    obtain ⟨q, hq, h⟩ := Option.bind_eq_some_iff.mp h
    obtain ⟨he, hes⟩ := List.forall_mem_cons.mp hsame
    exact takes_run? h hes (takes_step? hq he ht)

/-- The key that a step gives is taken, unless the step is the header of a list. -/
theorem takes_of_step? (h : step? p e = some p') :
    match e.place with
    | .line path => Entries.Takes .value (p.path ++ path) p'.root
    | .header path isList => isList = false → Entries.Takes .header path p'.root := by
  cases e with
  | keyLine line =>
    obtain ⟨root, hroot, rfl⟩ := Option.map_eq_some_iff.mp h
    exact Entries.Takes.of_putAt? hroot
  | header header =>
    obtain ⟨root, hroot, rfl⟩ := Option.map_eq_some_iff.mp h
    exact Entries.Takes.of_addTable? hroot

/-- **What gives a key once more fails**, as long as the key is taken. -/
theorem step?_eq_none {q : Progress} {e' : Expression} (h : Twice p.path q.path e.place e'.place)
    (hfirst : step? p e = some p')
    (hkept : ∀ u, Entries.Takes u (e.place.path p.path) p'.root →
      Entries.Takes u (e.place.path p.path) q.root) : step? q e' = none := by
  have htakes := takes_of_step? hfirst
  generalize e.place = first at h hkept htakes
  cases e' with
  | keyLine line =>
    refine Option.map_eq_none_iff.mpr ?_
    cases h with
    | lines hpath => exact (hkept _ htakes).putAt?_eq_none hpath (Or.inl rfl)
    | line habove hne hpath =>
      exact (hkept _ (htakes rfl)).putAt?_eq_none hpath (Or.inr ⟨habove, hne⟩)
  | header header =>
    refine Option.map_eq_none_iff.mpr ?_
    generalize hplace : (Expression.header header).place = second at h
    cases h with
    | header hpath =>
      obtain ⟨rfl, -⟩ := Place.header.inj hplace
      exact (hkept _ htakes).addTable?_eq_none (Or.inr ⟨rfl, hpath⟩)
    | headers =>
      obtain ⟨rfl, -⟩ := Place.header.inj hplace
      exact (hkept _ (htakes rfl)).addTable?_eq_none (Or.inl rfl)
    | lines | line => cases hplace

theorem run?_append (es es' : List Expression) (p : Progress) :
    run? (es ++ es') p = (run? es p).bind (run? es') := List.foldlM_append

/-- **No document gives a key twice.** -/
theorem run?_eq_none {es : List Expression} (h : Doubled (es.map Expression.place)) (root : Entries) :
    run? es ⟨[], root⟩ = none := by
  generalize hplaces : es.map Expression.place = places at h
  obtain ⟨_, _, _, htwice, hsame⟩ := h
  obtain ⟨_, _, rfl, hfront, hback⟩ := List.map_eq_append_iff.mp hplaces
  obtain ⟨front, _, rfl, rfl, hmid⟩ := List.map_eq_append_iff.mp hfront
  obtain ⟨e, between, rfl, rfl, rfl⟩ := List.map_eq_cons_iff.mp hmid
  obtain ⟨e', back, rfl, rfl, rfl⟩ := List.map_eq_cons_iff.mp hback
  rw [run?_append]
  cases hq : run? (front ++ e :: between) ⟨[], root⟩ with
  | none => rfl
  | some q =>
    have hqpath := path_run? hq
    rw [run?_append] at hq
    obtain ⟨p, hp, hq⟩ := Option.bind_eq_some_iff.mp hq
    obtain ⟨p', hp', hq⟩ := Option.bind_eq_some_iff.mp hq
    have hpath : p.path = Place.below (front.map Expression.place) := path_run? hp
    rw [← hpath] at htwice hsame
    rw [List.map_append, List.map_cons] at hqpath
    rw [Place.below, ← hqpath] at htwice
    have hfails := step?_eq_none htwice hp' fun u => takes_run? hq fun e he =>
      hsame e.place (List.mem_map_of_mem he)
    change (step? q e').bind (run? back) = none
    rw [hfails]
    rfl

end Progress

/-! ### Inline tables -/

/-- Some inline table within the value gives a key twice. -/
inductive Draft.Doubled : Draft → Prop
  /-- The table itself. -/
  | lines {lines : List ((List String × String) × Draft)}
      (h : Toml.Doubled (lines.map fun l => .line (l.1.1 ++ [l.1.2]))) : Doubled (.inline lines)
  /-- A table within an item of an array. -/
  | item {items : List Draft} {d : Draft} (hd : d ∈ items) (h : Doubled d) : Doubled (.array items)
  /-- A table within the value of a key. -/
  | value {lines : List ((List String × String) × Draft)} {l : (List String × String) × Draft}
      (hl : l ∈ lines) (h : Doubled l.2) : Doubled (.inline lines)

theorem Entries.putAll?_eq_run (t : Entries) : ∀ lines : List KeyLine, Entries.putAll? lines t =
    (Progress.run? (lines.map .keyLine) ⟨[], t⟩).map Progress.root := by
  intro lines
  induction lines generalizing t with
  | nil => rfl
  | cons line lines ih =>
    rw [List.map_cons, Progress.run?, List.foldlM_cons, Progress.step?, Entries.putAt?_nil,
      Entries.putAll?, List.foldlM_cons]
    cases hput : Entries.put? line t with
    | none => rfl
    | some t' => exact ih t'

/-- The paths of the lines stay as they are written. -/
theorem Draft.paths_lines? : ∀ {lines : List ((List String × String) × Draft)}
    {lines' : List KeyLine}, Draft.lines? lines = some lines' →
      lines'.map KeyLine.path = lines.map fun l => l.1.1 ++ [l.1.2]
  | [], lines', h => by rw [← Option.some.inj h]; rfl
  | ((parents, key), d) :: lines, lines', h => by
    obtain ⟨v, -, h⟩ := Option.bind_eq_some_iff.mp h
    obtain ⟨rest, hrest, rfl⟩ := Option.map_eq_some_iff.mp h
    rw [List.map_cons, paths_lines? hrest]
    rfl

theorem Draft.values?_eq_none {d : Draft} (hd : d.value? = none) :
    ∀ {items : List Draft}, d ∈ items → Draft.values? items = none
  | d' :: items, hmem => by
    rw [Draft.values?]
    rcases List.mem_cons.mp hmem with rfl | hmem
    · rw [hd]
      rfl
    · rw [values?_eq_none hd hmem]
      exact Option.bind_fun_none _

theorem Draft.lines?_eq_none {l : (List String × String) × Draft} (hl : l.2.value? = none) :
    ∀ {lines : List ((List String × String) × Draft)}, l ∈ lines → Draft.lines? lines = none
  | ((parents, key), d) :: lines, hmem => by
    rw [Draft.lines?]
    rcases List.mem_cons.mp hmem with rfl | hmem
    · rw [show d.value? = none from hl]
      rfl
    · rw [lines?_eq_none hl hmem]
      exact Option.bind_fun_none _

/-- **No value gives a key twice.** -/
theorem Draft.Doubled.value?_eq_none {d : Draft} (h : d.Doubled) : d.value? = none := by
  induction h with
  | @lines lines hlines =>
    rw [Draft.value?]
    cases hread : Draft.lines? lines with
    | none => rfl
    | some lines' =>
      have hplaces : (lines'.map Expression.keyLine).map Expression.place =
          lines.map fun l => .line (l.1.1 ++ [l.1.2]) := by
        have hpaths := congrArg (List.map Place.line) (Draft.paths_lines? hread)
        rw [List.map_map, List.map_map] at hpaths
        rw [List.map_map]
        exact hpaths
      rw [← hplaces] at hlines
      rw [Option.bind_some, Entries.putAll?_eq_run, Progress.run?_eq_none hlines]
      rfl
  | item hd _ ih => rw [Draft.value?, Draft.values?_eq_none ih hd]; rfl
  | value hl _ ih => rw [Draft.value?, Draft.lines?_eq_none ih hl]; rfl

/-! ### Documents -/

/-- **The statements give some key twice**, in the tables of the document or within a value. -/
def Statement.GiveTwice (ss : List Statement) : Prop :=
  Doubled (ss.map Statement.place) ∨
    ∃ parents key d, Statement.keyLine parents key d ∈ ss ∧ d.Doubled

theorem Statement.places_expressions? : ∀ {ss : List Statement} {es : List Expression},
    Statement.expressions? ss = some es → es.map Expression.place = ss.map Statement.place
  | [], es, h => by rw [← Option.some.inj h]; rfl
  | s :: ss, es, h => by
    obtain ⟨e, he, h⟩ := Option.bind_eq_some_iff.mp h
    obtain ⟨rest, hrest, rfl⟩ := Option.map_eq_some_iff.mp h
    have hplace : e.place = s.place := by
      cases s with
      | keyLine parents key d =>
        obtain ⟨v, -, rfl⟩ := Option.map_eq_some_iff.mp he
        rfl
      | header header => rw [← Option.some.inj he]; rfl
    rw [List.map_cons, List.map_cons, places_expressions? hrest, hplace]

theorem Statement.expressions?_eq_none {s : Statement} (hs : s.expression? = none) :
    ∀ {ss : List Statement}, s ∈ ss → Statement.expressions? ss = none
  | s' :: ss, hmem => by
    rw [Statement.expressions?]
    rcases List.mem_cons.mp hmem with rfl | hmem
    · rw [hs]
      rfl
    · rw [expressions?_eq_none hs hmem]
      exact Option.bind_fun_none _

/-! ### Sections

No list can lead to the name of a section, so whatever stands between two statements about the name
of a section, its table is not started again. -/

namespace Statement

variable (before between after : List Statement)

theorem not_restarts_top (s : Statement) (name : String) : ¬ s.place.Restarts [name] := by
  cases s with
  | keyLine parents key d => exact id
  | header h =>
    rintro ⟨-, hpath, hne⟩
    have hlength : 0 < h.path.length := by simp [Header.path]
    exact hne (hpath.eq_of_length (Nat.le_antisymm hpath.length_le hlength))

theorem doubled_top {first second : Statement} {name : String}
    (hfirst : first.place.path (Place.below (before.map Statement.place)) = [name])
    (h : Twice (Place.below (before.map Statement.place))
      (Place.below ((before ++ first :: between).map Statement.place)) first.place second.place) :
    GiveTwice (before ++ first :: between ++ second :: after) := by
  refine Or.inl ?_
  simp only [List.map_append, List.map_cons] at h ⊢
  refine .intro _ _ _ h ?_
  rw [hfirst]
  intro p hp
  obtain ⟨s, -, rfl⟩ := List.mem_map.mp hp
  exact s.not_restarts_top name

/-- The header of a section stands twice. -/
theorem giveTwice_headers (name : String) (isList : Bool) :
    GiveTwice (before ++ .header ⟨[], name, false⟩ :: between ++
      .header ⟨[], name, isList⟩ :: after) :=
  doubled_top before between after rfl .headers

/-- A section is given at the top of the document, by an inline table or any other value, and by a
header of its own or of a table in it. -/
theorem giveTwice_value {name : String} (d : Draft) {h : Header} (htop : h.top = name)
    (hroot : Place.below (before.map Statement.place) = []) :
    GiveTwice (before ++ .keyLine [] name d :: between ++ .header h :: after) := by
  have hfirst : (keyLine [] name d).place.path (Place.below (before.map Statement.place)) =
      [name] := by
    rw [hroot]
    rfl
  refine doubled_top before between after hfirst (.header ?_)
  rw [hroot, ← htop, Header.path, Header.top]
  cases h.parents with
  | nil => exact List.prefix_rfl
  | cons parent parents => exact ⟨parents ++ [h.key], rfl⟩

end Statement

/-! ### Refused documents -/

theorem parse?_eq_none {text : String} {ss : List Statement} (hread : statementsOf? text = some ss)
    (h : Statement.GiveTwice ss) : parse? text = none := by
  rw [parse?_eq, expressionsOf?_eq_bind, hread, Option.bind_some]
  cases hes : Statement.expressions? ss with
  | none => rfl
  | some es =>
    rcases h with hplaces | ⟨parents, key, d, hmem, hd⟩
    · rw [← Statement.places_expressions? hes] at hplaces
      rw [Option.bind_some, assemble?_eq_run, Progress.run?_eq_none hplaces]
      rfl
    · have hs : (Statement.keyLine parents key d).expression? = none := by
        rw [Statement.expression?, hd.value?_eq_none]
        rfl
      rw [Statement.expressions?_eq_none hs hmem] at hes
      cases hes

end WmConfig.Toml

namespace WmConfig.Settings

open Toml

/-- **A key that is given twice makes the whole text be refused.** Whatever else the text says, the
settings are the defaults and one fault is reported. -/
theorem doubled_refused {text : String} {ss : List Statement} (hread : statementsOf? text = some ss)
    (h : Statement.GiveTwice ss) : (parse text).value = {} ∧
      (parse text).warnings = [.malformed] ∧
      (parse text).warnings.map Warning.message = ["error parsing configuration file"] := by
  have hparse : parse text = ⟨{}, [.malformed]⟩ := by
    unfold parse
    rw [parse?_eq_none hread h]
    rfl
  rw [hparse]
  exact ⟨rfl, rfl, rfl⟩

/-- A key given twice with another key between, a section with two headers, one with an inline table
and a header, a list over an array, and an inline table within an array. -/
theorem doubled_refused_each :
    (parse "[general]\nborder = 1\nsnap = 2\nborder = 'a'\n").warnings = [.malformed] ∧
      (parse "[general]\n[keys]\n[general]\n").warnings = [.malformed] ∧
      (parse "tags = \x7b tag = [] \x7d\n[[tags.tag]]\n").warnings = [.malformed] ∧
      (parse "[tags]\ntag = [1]\n[[tags.tag]]\n").warnings = [.malformed] ∧
      (parse "a = [\x7b b.c = 1, b = 2 \x7d]\n").warnings = [.malformed] := by
  have hlines : statementsOf? "[general]\nborder = 1\nsnap = 2\nborder = 'a'\n" =
      some [.header ⟨[], "general", false⟩, .keyLine [] "border" (.single (.integer 1)),
        .keyLine [] "snap" (.single (.integer 2)),
        .keyLine [] "border" (.single (.string "a"))] := by decide +kernel
  have hheaders : statementsOf? "[general]\n[keys]\n[general]\n" =
      some [.header ⟨[], "general", false⟩, .header ⟨[], "keys", false⟩,
        .header ⟨[], "general", false⟩] := by decide +kernel
  have hvalue : statementsOf? "tags = \x7b tag = [] \x7d\n[[tags.tag]]\n" =
      some [.keyLine [] "tags" (.inline [(([], "tag"), .array [])]),
        .header ⟨["tags"], "tag", true⟩] := by decide +kernel
  have hlist : statementsOf? "[tags]\ntag = [1]\n[[tags.tag]]\n" =
      some [.header ⟨[], "tags", false⟩, .keyLine [] "tag" (.array [.single (.integer 1)]),
        .header ⟨["tags"], "tag", true⟩] := by decide +kernel
  have hinline : statementsOf? "a = [\x7b b.c = 1, b = 2 \x7d]\n" =
      some [.keyLine [] "a" (.array [.inline [((["b"], "c"), .single (.integer 1)),
        (([], "b"), .single (.integer 2))]])] := by decide +kernel
  refine ⟨(doubled_refused hlines (Or.inl ?_)).2.1,
    (doubled_refused hheaders (Statement.giveTwice_headers [] [_] [] "general" false)).2.1,
    (doubled_refused hvalue (Statement.giveTwice_value [] [] [] _ rfl rfl)).2.1,
    (doubled_refused hlist (Or.inl ?_)).2.1,
    (doubled_refused hinline (Or.inr ⟨_, _, _, List.mem_singleton.mpr rfl, ?_⟩)).2.1⟩
  · exact .intro [.header ["general"] false] [.line ["snap"]] []
      (.lines (Or.inl List.prefix_rfl)) (by simp [Place.Restarts])
  · exact .intro [.header ["tags"] false] [] [] (.header List.prefix_rfl) (by simp)
  · exact .item (List.mem_singleton.mpr rfl) (.lines (.intro [] [] []
      (.lines (Or.inr ⟨["c"], rfl⟩)) (by simp)))

end WmConfig.Settings
