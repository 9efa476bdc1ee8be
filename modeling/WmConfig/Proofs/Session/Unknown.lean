import WmConfig.Proofs.Session.Keys
import WmConfig.Proofs.Settings.Reports

/-! # Layouts that are not known

A layout that is not known is reported with a number. An item of the list that is skipped is numbered
by its place in the file, but this number is counted among the entries that are left
(`unknown_layouts_numbered_among_kept`). So the two numberings agree iff nothing is skipped before a
layout that is not known. -/

namespace WmConfig

open Toml

namespace Settings

/-! ### Items by their titles -/

/-- The title of an item, if it is a table with a text as its title. -/
def title? : Value → Option String
  | .table t =>
    match Table.get? t "title" with
    | some (.string title) => some title
    | _ => none
  | _ => none

theorem title?_eq_some_iff {item : Value} {title : String} : title? item = some title ↔
    ∃ t, item = .table t ∧ Table.get? t "title" = some (.string title) := by
  cases item with
  | table t =>
    simp only [title?, Value.table.injEq, exists_eq_left']
    cases Table.get? t "title" with
    | none => simp
    | some v => cases v <;> simp
  | _ => simp [title?]

/-- An item with a title is kept, with this title. -/
theorem title_best (item : Value) :
    ((keptTable? true item).map (Layout.best .asText)).map Layout.title = title? item := by
  ext title
  simp only [Option.map_map, Option.map_eq_some_iff, keptTable?_eq_some_iff, title?_eq_some_iff,
    forall_const, Function.comp_apply, and_assoc]
  refine exists_congr fun t => and_congr_right fun _ => ?_
  constructor
  · rintro ⟨⟨s, hs⟩, rfl⟩
    rw [Layout.best, fieldOr, hs]
    rfl
  · intro htitle
    refine ⟨⟨title, htitle⟩, ?_⟩
    rw [Layout.best, fieldOr, htitle]
    rfl

/-- The items of `layouts.layout` in a text; none if it is no document. -/
def layoutItems (text : String) : List Value :=
  ((document? text).map ListSection.layouts.items).getD []

/-- The title of an item that names no arrangement. -/
def unknownTitle? (item : Value) : Option String :=
  (title? item).filter fun title => (Arrangement.ofName? title).isNone

/-- How many of the items before a place have a title. -/
def titledBefore (items : List Value) (place : ℕ) : ℕ :=
  (items.take place).countP fun item => (title? item).isSome

/-- The items with an unknown title, each with the number that its place has. -/
def unknownLayouts (number : ℕ → ℕ) (items : List Value) : List (ℕ × String) :=
  items.zipIdx.filterMap fun (item, place) => (unknownTitle? item).map (number place, ·)

theorem mem_unknownLayouts {number : ℕ → ℕ} {items : List Value} {i : ℕ} {title : String} :
    (i, title) ∈ unknownLayouts number items ↔
      ∃ place item, items[place]? = some item ∧ unknownTitle? item = some title ∧
        i = number place := by
  simp only [unknownLayouts, List.mem_filterMap, Prod.exists, List.mem_zipIdx_iff_getElem?,
    Option.map_eq_some_iff, Prod.mk.injEq]
  constructor
  · rintro ⟨item, place, hitem, _, htitle, rfl, rfl⟩
    exact ⟨place, item, hitem, htitle, rfl⟩
  · rintro ⟨place, item, hitem, htitle, rfl⟩
    exact ⟨item, place, hitem, title, htitle, rfl, rfl⟩

theorem isSome_title_of_unknown {item : Value} {title : String}
    (h : unknownTitle? item = some title) : (title? item).isSome :=
  Option.isSome_iff_exists.mpr ⟨title, (Option.filter_eq_some_iff.mp h).1⟩

/-! ### Two numberings -/

/-- The members that a list is left with, numbered in their new order. -/
theorem zipIdx_filterMap {α β : Type} (f : α → Option β) (l : List α) (n : ℕ) :
    (l.filterMap f).zipIdx n = l.zipIdx.filterMap fun (a, place) =>
      (f a).map (·, n + (l.take place).countP fun a => (f a).isSome) := by
  induction l generalizing n with
  | nil => rfl
  | cons a l ih =>
    rw [List.zipIdx_cons', List.filterMap_cons, List.filterMap_cons, List.filterMap_map]
    cases ha : f a with
    | none =>
      simp [ih, ha]
    | some b =>
      simp [ih, ha, Nat.add_assoc, Nat.add_comm 1]

theorem titledBefore_lt {items : List Value} {i j : ℕ} {item : Value}
    (hitem : items[i]? = some item) (htitle : (title? item).isSome) (hlt : i < j) :
    titledBefore items i < titledBefore items j := by
  obtain ⟨hi, rfl⟩ := List.getElem?_eq_some_iff.mp hitem
  have hprefix : items.take (i + 1) <+: items.take j := List.take_prefix_take_left hlt
  have hstep : titledBefore items (i + 1) = titledBefore items i + 1 := by
    rw [titledBefore, titledBefore, List.take_succ_eq_append_getElem hi, List.countP_append,
      List.countP_singleton, if_pos htitle]
  exact (Nat.lt_of_lt_of_eq (Nat.lt_succ_self _) hstep.symm).trans_le hprefix.sublist.countP_le

theorem titledBefore_eq_iff {items : List Value} {place : ℕ} (h : place ≤ items.length) :
    titledBefore items place = place ↔
      ∀ item ∈ items.take place, (title? item).isSome = true := by
  have hlength : (items.take place).length = place := List.length_take_of_le h
  rw [← List.countP_eq_length, hlength, titledBefore]

/-- The numbers increase. -/
theorem pairwise_unknownLayouts (items : List Value) :
    (unknownLayouts (titledBefore items) items).Pairwise fun a b => a.1 < b.1 := by
  have hplaces : items.zipIdx.Pairwise fun a b => a.2 < b.2 :=
    List.pairwise_map.mp (by
      rw [List.zipIdx_map_snd]
      exact List.pairwise_lt_range')
  refine List.pairwise_filterMap.mpr (hplaces.imp_of_mem fun {a b} ha _ hlt x hx y hy => ?_)
  obtain ⟨s, hs, rfl⟩ := Option.map_eq_some_iff.mp hx
  obtain ⟨s', -, rfl⟩ := Option.map_eq_some_iff.mp hy
  exact titledBefore_lt (List.mem_zipIdx_iff_getElem?.mp ha) (isSome_title_of_unknown hs) hlt

theorem unknownLayouts_eq_map (number : ℕ → ℕ) (items : List Value) :
    unknownLayouts number items =
      (unknownLayouts id items).map fun (place, title) => (number place, title) := by
  simp [unknownLayouts, List.map_filterMap, Function.comp_def]

/-- The two numberings agree iff nothing is skipped before a layout that is not known. -/
theorem unknownLayouts_eq_iff (items : List Value) :
    unknownLayouts (titledBefore items) items = unknownLayouts id items ↔
      ∀ place item, items[place]? = some item → (unknownTitle? item).isSome →
        ∀ earlier ∈ items.take place, (title? earlier).isSome := by
  have hsame : unknownLayouts (titledBefore items) items = unknownLayouts id items ↔
      ∀ a ∈ unknownLayouts id items, titledBefore items a.1 = a.1 := by
    rw [unknownLayouts_eq_map, ← List.map_id (unknownLayouts id items), List.map_map,
      List.map_inj_left]
    simp [Prod.ext_iff]
  have hplace {place : ℕ} {item : Value} (hitem : items[place]? = some item) :=
    titledBefore_eq_iff (List.getElem?_eq_some_iff.mp hitem).1.le
  rw [hsame]
  constructor
  · intro h place item hitem hunknown
    obtain ⟨title, htitle⟩ := Option.isSome_iff_exists.mp hunknown
    exact (hplace hitem).mp
      (h (place, title) (mem_unknownLayouts.mpr ⟨place, item, hitem, htitle, rfl⟩))
  · rintro h ⟨i, title⟩ hmem
    obtain ⟨place, item, hitem, htitle, hi⟩ := mem_unknownLayouts.mp hmem
    obtain rfl : i = place := hi
    exact (hplace hitem).mpr (h i item hitem (Option.isSome_iff_exists.mpr ⟨title, htitle⟩))

end Settings

/-! ### What is reported -/

/-- The number and the name of a layout that is reported as not known. -/
def Warning.unknownLayout? : Warning → Option (ℕ × String)
  | unknownLayout index name => some (index, name)
  | _ => none

namespace Loading

open Settings

variable {σ : Type} (p : Platform σ) (s : Settings) (state : σ)

/-- Whether a load with this result has got as far as the layouts: it has its font and its
colours. -/
def reachesLayouts {α : Type} : Except LoadError α → Bool
  | .error (.font ..) | .error (.color ..) | .error .noHomeDirectory => false
  | _ => true

theorem unknownLayout_ofSettings (entry : Settings.Layout × ℕ) :
    (Session.Layout.ofSettings entry).warnings.filterMap Warning.unknownLayout? =
      (((some entry.1.title).filter fun title => (Arrangement.ofName? title).isNone).map
        (entry.2, ·)).toList := by
  unfold Session.Layout.ofSettings
  cases h : Arrangement.ofName? entry.1.title <;> simp [h, Warning.unknownLayout?, Option.filter]

/-- The layouts of the items that are kept: those that are not known are reported in order. -/
theorem unknownLayout_ofEntries (items : List Value) :
    (Session.Layout.ofEntries (items.filterMap fun item =>
      (keptTable? true item).map (Layout.best .asText))).warnings.filterMap Warning.unknownLayout? =
        unknownLayouts (titledBefore items) items := by
  have hsome : ∀ item, ((keptTable? true item).map (Layout.best .asText)).isSome =
      (title? item).isSome := fun item => by rw [← title_best, Option.isSome_map (f := Layout.title)]
  rw [Session.Layout.ofEntries, Reported.warnings_map, List.filterMap_flatMap]
  simp only [unknownLayout_ofSettings, ← List.filterMap_eq_flatMap_toList]
  rw [zipIdx_filterMap, List.filterMap_filterMap]
  refine List.filterMap_congr ?_
  rintro ⟨item, place⟩ -
  simp only [hsome, Nat.zero_add, unknownTitle?, ← title_best item, titledBefore]
  cases (keptTable? true item).map (Layout.best .asText) <;> rfl

/-- The rest of what a load reports is about other things. -/
theorem unknownLayout_others (rules : List Settings.Rule) (answer : Except Failure UInt16)
    (keys : List Settings.Key) :
    (Reported.map Session.Rule.ofSettings rules).warnings.filterMap Warning.unknownLayout? = [] ∧
      (numLockOf answer).warnings.filterMap Warning.unknownLayout? = [] ∧
      (Reported.map Session.KeyBinding.ofSettings keys).warnings.filterMap
        Warning.unknownLayout? = [] := by
  refine ⟨List.filterMap_eq_nil_iff.mpr fun w hw => ?_, List.filterMap_eq_nil_iff.mpr fun w hw => ?_,
    List.filterMap_eq_nil_iff.mpr fun w hw => ?_⟩
  · obtain ⟨field, text, rfl⟩ := Session.Rule.eq_invalidPattern_of_mem hw
    rfl
  · rw [eq_numLockUnavailable_of_mem hw]
    rfl
  · have hcomplaint := Session.KeyBinding.isComplaint_of_mem hw
    cases w <;> first | rfl | cases hcomplaint

/-- What a load of settings reports of layouts: nothing if it does not get as far. -/
theorem unknownLayout_resolve (p : Platform σ) (s : Settings) (state : σ) (earlier : List Warning) :
    let run := (resolve p s).runFrom ⟨state, earlier⟩
    run.2.warnings.filterMap Warning.unknownLayout? = earlier.filterMap Warning.unknownLayout? ++
      if reachesLayouts run.1 then
        (Session.Layout.ofEntries s.layouts.layout).warnings.filterMap Warning.unknownLayout?
      else [] := by
  intro run
  obtain ⟨result, state', ws, hloads⟩ := exists_loads p s state
  have hrun : run = (result, ⟨state', earlier ++ ws⟩) := hloads.runFrom earlier
  rw [hrun, List.filterMap_append]
  congr 1
  cases hloads with
  | noFont | refused | noDefaultLayout => rfl
  | noTags =>
    obtain ⟨hrules, -, -⟩ := unknownLayout_others s.rules (.ok 0) []
    rw [List.filterMap_append, hrules, List.append_nil]
    rfl
  | loaded =>
    rename_i answer _ _ _ _ _
    obtain ⟨hrules, hnumLock, hkeys⟩ := unknownLayout_others s.rules answer s.keys.key
    rw [List.filterMap_append, List.filterMap_append, List.filterMap_append, hrules, hnumLock, hkeys,
      List.append_nil, List.append_nil, List.append_nil]
    rfl

/-- Reading a text reports no layout as not known, and keeps the items with a title. -/
theorem unknownLayout_parse (text : String) :
    (parse text).warnings.filterMap Warning.unknownLayout? = [] ∧
      (parse text).value.layouts.layout = (layoutItems text).filterMap fun item =>
        (keptTable? true item).map (Layout.best .asText) := by
  unfold layoutItems
  cases h : document? text with
  | none =>
    rw [parse_of_none h]
    exact ⟨rfl, rfl⟩
  | some root =>
    have honce := keysOnce_of_document h
    rw [parse_of_document h]
    refine ⟨List.filterMap_eq_nil_iff.mpr fun w hw => ?_,
      (listed_inRange _ .layouts).trans (listed_sections honce .layouts)⟩
    rw [warnings_ofTable honce] at hw
    have hdefect := isDefect_of_mem hw
    cases w <;> first | rfl | cases hdefect

/-- A load of a text takes up what was reported of the text. -/
theorem start_ofText (p : Platform σ) (text : String) (state : σ) : (ofText p text).start state =
    (resolve p (parse text).value).runFrom ⟨state, (parse text).warnings⟩ := by
  rw [start_eq, ofText, runFrom_bind, runFrom_report, List.nil_append]

theorem mem_warnings_ofText {text : String} {w : Warning} (hw : w ∈ (parse text).warnings)
    (p : Platform σ) (state : σ) : w ∈ ((ofText p text).start state).2.warnings := by
  obtain ⟨result, state', ws, hloads⟩ := exists_loads p (parse text).value state
  rw [start_ofText, hloads.runFrom]
  exact List.mem_append_left _ hw

/-- What a load of a text reports of layouts. -/
theorem unknownLayout_ofText (p : Platform σ) (text : String) (state : σ) :
    ((ofText p text).start state).2.warnings.filterMap Warning.unknownLayout? =
      if reachesLayouts ((ofText p text).start state).1 then
        unknownLayouts (titledBefore (layoutItems text)) (layoutItems text)
      else [] := by
  obtain ⟨hnone, hlayouts⟩ := unknownLayout_parse text
  rw [start_ofText, unknownLayout_resolve, hnone, List.nil_append, hlayouts, unknownLayout_ofEntries]

/-- What is wrong with an item is reported with its place. -/
theorem reported_of_itemDefects {text : String} {place : ℕ} {item : Value}
    (hitem : (layoutItems text)[place]? = some item) {w : Warning}
    (hw : w ∈ ListSection.layouts.itemDefects (item, place)) : w ∈ (parse text).warnings := by
  unfold layoutItems at hitem
  cases h : document? text with
  | none => simp [h] at hitem
  | some root =>
    rw [h] at hitem
    have hmem : w ∈ ListSection.layouts.defects root :=
      List.mem_flatMap.mpr ⟨(item, place), List.mem_zipIdx_iff_getElem?.mpr hitem, hw⟩
    rw [parse_of_document h, warnings_ofTable (keysOnce_of_document h), defects]
    simp [hmem]

/-- An item without a title is reported with its place, also if the load comes to nothing. -/
theorem reported_of_untitled {text : String} {place : ℕ} {item : Value}
    (hitem : (layoutItems text)[place]? = some item) (htitle : title? item = none) :
    .entryUntitled "layouts.layout" place ∈ (parse text).warnings ∨
      .entryNotTable "layouts.layout" place item.kind ∈ (parse text).warnings := by
  have hskip : (keptTable? ListSection.layouts.titled item).isSome = false := by
    rw [← title_best, Option.map_map, Option.map_eq_none_iff] at htitle
    exact Option.isSome_eq_false_iff.mpr (Option.isNone_iff_eq_none.mpr htitle)
  cases htable : item.table? with
  | none =>
    refine Or.inr (reported_of_itemDefects hitem ?_)
    rw [ListSection.itemDefects, htable]
    exact List.mem_singleton_self _
  | some t =>
    refine Or.inl (reported_of_itemDefects hitem ?_)
    rw [ListSection.itemDefects, htable]
    simp only [hskip, Bool.false_eq_true, if_false]
    exact List.mem_singleton_self _

/-- **A layout that is not known is numbered among the entries that are kept.** A load that gets as
far as the layouts reports each item with an unknown title once and in order, a load that does not
reports none. The number is how many of the items before have a title; that is the place of the item
iff all of them have, while an item that is skipped is reported with its place. -/
theorem unknown_layouts_numbered_among_kept (p : Platform σ) (text : String) (state : σ) :
    let items := layoutItems text
    let run := (ofText p text).start state
    let reported := run.2.warnings.filterMap Warning.unknownLayout?
    reported =
        (if reachesLayouts run.1 then unknownLayouts (titledBefore items) items else []) ∧
    reported.Pairwise (fun a b => a.1 < b.1) ∧
    (∀ i title, .unknownLayout i title ∈ run.2.warnings → ∃ place t,
      items[place]? = some (.table t) ∧ Table.get? t "title" = some (.string title) ∧
        (∀ a : Arrangement, a.name ≠ title) ∧ i = titledBefore items place) ∧
    (∀ place item, items[place]? = some item → title? item = none →
      .entryUntitled "layouts.layout" place ∈ run.2.warnings ∨
        .entryNotTable "layouts.layout" place item.kind ∈ run.2.warnings) ∧
    (unknownLayouts (titledBefore items) items = unknownLayouts id items ↔
      ∀ place item, items[place]? = some item → (unknownTitle? item).isSome →
        ∀ earlier ∈ items.take place, (title? earlier).isSome) := by
  intro items run reported
  have hreported : reported = _ := unknownLayout_ofText p text state
  refine ⟨hreported, ?_, fun i title hw => ?_, fun place item hitem htitle => ?_,
    unknownLayouts_eq_iff items⟩
  · rw [hreported]
    split_ifs
    · exact pairwise_unknownLayouts items
    · exact .nil
  · have hmem : (i, title) ∈ reported := List.mem_filterMap.mpr ⟨_, hw, rfl⟩
    rw [hreported] at hmem
    split_ifs at hmem
    · obtain ⟨place, item, hitem, htitle, hi⟩ := mem_unknownLayouts.mp hmem
      obtain ⟨htitle, hnone⟩ := Option.filter_eq_some_iff.mp htitle
      obtain ⟨t, rfl, ht⟩ := title?_eq_some_iff.mp htitle
      refine ⟨place, t, hitem, ht, fun a ha => ?_, hi⟩
      rw [Arrangement.ofName?_eq_some_iff.mpr ha] at hnone
      cases hnone
    · cases hmem
  · exact (reported_of_untitled hitem htitle).imp (mem_warnings_ofText · p state)
      (mem_warnings_ofText · p state)

/-- A layout after an item without a title is reported with the number of that item: the two reports
have the same number, and the item at this place is not the one that is named. -/
theorem number_of_skipped_item :
    let p : Platform Unit :=
      { screen := 0
        physScreen := 0
        openFont := fun d _ => (.ok d.loaded, ())
        allocColor := fun _ _ => (.ok ⟨1, ⟨0, 0, 0⟩⟩, ())
        numLockMask := fun _ => (.ok 16, ()) }
    let text := "[[tags.tag]]\ntitle = '1'\n[[layouts.layout]]\ntitle = 'max'\n" ++
      "[[layouts.layout]]\nsymbol = '[M]'\n[[layouts.layout]]\ntitle = 'spiral'\n"
    let warnings := ((ofText p text).start ()).2.warnings
    warnings.filterMap Warning.unknownLayout? = [(1, "spiral")] ∧
      .entryUntitled "layouts.layout" 1 ∈ warnings ∧
      layoutItems text = [.table [("title", .string "max")], .table [("symbol", .string "[M]")],
        .table [("title", .string "spiral")]] ∧
      unknownLayouts id (layoutItems text) = [(2, "spiral")] := by
  intro p text warnings
  have h : document? text = some [
      ("tags", .table [("tag", .array [.table [("title", .string "1")]])]),
      ("layouts", .table [("layout", .array [.table [("title", .string "max")],
        .table [("symbol", .string "[M]")], .table [("title", .string "spiral")]])])] := by
    unfold text
    decide +kernel
  have hitems : layoutItems text = [.table [("title", .string "max")],
      .table [("symbol", .string "[M]")], .table [("title", .string "spiral")]] := by
    rw [layoutItems, h]
    rfl
  have hreaches : reachesLayouts ((ofText p text).start ()).1 = true := by
    have hlayouts := (unknownLayout_parse text).2
    rw [hitems] at hlayouts
    have htags : (parse text).value.tags = [{ title := "1" }] := by
      rw [parse_of_document h]
      exact (listed_inRange _ .tags).trans (listed_sections (keysOnce_of_document h) .tags)
    obtain ⟨r, hr⟩ : ∃ r, ((ofText p text).start ()).1 = .ok r := by
      rw [start_ofText]
      exact ⟨_, resolve_eq_ok_iff.mpr ⟨_, _, _, _, rfl,
        startable_iff.mpr ⟨_, _, hlayouts, .max, rfl⟩, htags ▸ List.cons_ne_nil _ _, rfl⟩⟩
    rw [hr]
    rfl
  refine ⟨?_, mem_warnings_ofText ?_ p (), hitems, ?_⟩
  · rw [unknownLayout_ofText, if_pos hreaches, hitems]
    rfl
  · have hitem : (layoutItems text)[1]? = some (.table [("symbol", .string "[M]")]) := by
      rw [hitems]
      rfl
    exact reported_of_itemDefects hitem (List.mem_singleton_self _)
  · rw [hitems]
    rfl

end Loading

end WmConfig
