import WmConfig.Proofs.Number.Order
import WmConfig.Proofs.Session.Calls
import WmConfig.Proofs.Settings.Agreement

/-! # The sessions that are loaded

Every session that a load gives is well formed (`Session.WellFormed`): there is a current layout that
can be used, exactly the first tag is shown, the masks of modifiers have eight bits, and the numbers
that have a range lie in it. Whatever the text is, its settings are in range (`inRange_parse`,
`inRange_ofBytes`); whatever the platform does, a session of settings in range is well formed
(`wellFormed_of_resolve`). -/

namespace WmConfig

open Settings Toml

/-! ### Settings in range -/

namespace Settings

/-- Settings are in range once they have been brought into it. -/
theorem inRange_value_inRange (s : Settings) : InRange (inRange s).value := by
  have hmwfact : isShare (inRange s).value.layouts.mwfact = true := by
    by_cases hshare : isShare s.layouts.mwfact = true
    · rw [inRange, if_pos hshare]
      exact hshare
    · rw [inRange, if_neg hshare]
      exact Bool.and_eq_true_iff.mpr ⟨inRange_default.mwfact_pos, inRange_default.mwfact_le⟩
  obtain ⟨hpos, hle⟩ := Bool.and_eq_true_iff.mp hmwfact
  have hnonneg : 0 ≤ clampOpacity s.general.opacityUnfocused := by
    unfold clampOpacity
    omega
  have hmax : clampOpacity s.general.opacityUnfocused ≤ 100 := by
    unfold clampOpacity maxOpacity
    omega
  exact ⟨hnonneg, hmax, hpos, hle⟩

theorem inRange_parse (text : String) : InRange (parse text).value := by
  unfold parse
  cases (Toml.parse? text).bind Table.withDates? with
  | none => exact inRange_default
  | some root => exact inRange_value_inRange (sections root).value

theorem inRange_ofBytes (contents : Option ByteArray) : InRange (ofBytes contents).value := by
  unfold ofBytes
  cases contents.bind String.fromUTF8? with
  | none => exact inRange_default
  | some text => exact inRange_parse text

end Settings

/-! ### Tags -/

/-- Exactly the first tag is shown and was shown, and all have the same layout. -/
structure Session.FirstShown (layout : Nat) (tags : List Session.Tag) : Prop where
  shown : ∃ first rest, tags = first :: rest ∧ first.selected = true ∧ first.wasSelected = true ∧
    ∀ t ∈ rest, t.selected = false ∧ t.wasSelected = false
  layout_eq : ∀ t ∈ tags, t.layout = layout

theorem Session.FirstShown.filter_selected {layout : Nat} {tags : List Session.Tag}
    (h : Session.FirstShown layout tags) :
    ∃ first, tags.head? = some first ∧ tags.filter (·.selected) = [first] := by
  obtain ⟨first, rest, rfl, hfirst, -, hrest⟩ := h.shown
  refine ⟨first, rfl, ?_⟩
  have hnone : rest.filter (·.selected) = [] :=
    List.filter_eq_nil_iff.mpr fun t ht => by simp [(hrest t ht).1]
  rw [List.filter_cons_of_pos hfirst, hnone]

theorem Session.firstShown_ofEntries (layout : Nat) {entries : List Settings.Tag}
    (h : entries ≠ []) : Session.FirstShown layout (Session.Tag.ofEntries layout entries) := by
  obtain ⟨first, rest, rfl⟩ := List.exists_cons_of_ne_nil h
  refine ⟨⟨_, _, rfl, rfl, rfl, fun t ht => ?_⟩, fun t ht => ?_⟩
  · obtain ⟨entry, -, rfl⟩ := List.mem_map.mp ht
    exact ⟨rfl, rfl⟩
  · rcases List.mem_cons.mp ht with rfl | ht
    · rfl
    · obtain ⟨entry, -, rfl⟩ := List.mem_map.mp ht
      rfl

/-! ### Sessions -/

/-- A session of the settings that can be relied on. -/
structure Session.WellFormed (s : Settings) (r : Session) : Prop where
  layouts_ne : r.layouts ≠ []
  currentLayout_lt : r.currentLayout < r.layouts.length
  usable : ∃ l, r.layout? = some l ∧ l.isUsable = true
  resolved : ∀ l ∈ r.layouts, l.Resolved
  tags : Session.FirstShown r.currentLayout r.tags
  selectedTags : ∃ first, r.tags.head? = some first ∧ r.selectedTags = [first]
  position : r.statusBar.position = r.statusBar.defaultPosition
  modkey : ∃ k < 8, r.modkey.toNat = 2 ^ k
  modifiers : ∀ k ∈ r.keys, k.modifiers.toNat < 2 ^ 8
  opacity_le : r.general.opacityUnfocused.toNat ≤ 100
  opacity_eq : (r.general.opacityUnfocused.toNat : Int) = s.general.opacityUnfocused
  mwfact : ∃ q, r.tiling.mwfact.toRat? = some q ∧ 0 < q ∧ q ≤ 1
  normal : r.theme.normal = ⟨r.colors.normalBorder.pixel, r.colors.normalBackground.pixel,
    r.colors.normalForeground.pixel⟩
  focused : r.theme.focused = ⟨r.colors.focusBorder.pixel, r.colors.focusBackground.pixel,
    r.colors.focusForeground.pixel⟩
  textNormal : r.theme.textNormal = r.colors.normalForeground.rgb
  textFocused : r.theme.textFocused = r.colors.focusForeground.rgb

namespace Loading

variable {σ : Type} {p : Platform σ} {s : Settings} {r : Session}

/-- The opacity in range fits into eight bits. -/
theorem toNat_opacity (h : InRange s) :
    ((general s.general).opacityUnfocused.toNat : Int) = s.general.opacityUnfocused := by
  have hnonneg := h.opacity_nonneg
  have hle := h.opacity_le
  have hclamp : clampOpacity s.general.opacityUnfocused = s.general.opacityUnfocused := by
    unfold clampOpacity maxOpacity
    omega
  have hfits : s.general.opacityUnfocused.toNat < UInt8.size := by
    have : UInt8.size = 256 := rfl
    omega
  change ((UInt8.ofNat (clampOpacity s.general.opacityUnfocused).toNat).toNat : Int) = _
  rw [hclamp, UInt8.toNat_ofNat_of_lt' hfits, Int.toNat_of_nonneg hnonneg]

/-- **Sessions of settings in range are well formed.** -/
theorem wellFormed_of_resolve (hrange : InRange s) {prog : Progress σ}
    (h : ((resolve p s).runFrom prog).1 = .ok r) : r.WellFormed s := by
  obtain ⟨font, colors, state, ws, -, hstart, htags, rfl⟩ := resolve_eq_ok_iff.mp h
  obtain ⟨l, hl, husable⟩ := Option.any_eq_true _ _ |>.mp hstart
  have hlt := (List.getElem?_eq_some_iff.mp hl).1
  have hshown := Session.firstShown_ofEntries firstLayout htags
  obtain ⟨m, hm⟩ := Session.mainModifier_eq_bit s.keys.modkey
  have hopacity := toNat_opacity hrange
  have hle := hrange.opacity_le
  exact {
    layouts_ne := List.ne_nil_of_length_pos (Nat.zero_lt_of_lt hlt)
    currentLayout_lt := hlt
    usable := ⟨l, hl, husable⟩
    resolved := fun l hl => Session.Layout.resolved_of_mem hl
    tags := hshown
    selectedTags := hshown.filter_selected
    position := rfl
    modkey := ⟨m.slot, m.slot_lt, by rw [← m.toNat_bit, ← hm]; rfl⟩
    modifiers := by
      intro k hk
      obtain ⟨entry, -, rfl⟩ := List.mem_map.mp hk
      exact modifierListMask_lt entry.modkey
    opacity_le := by
      change (general s.general).opacityUnfocused.toNat ≤ 100
      omega
    opacity_eq := hopacity
    mwfact := (Binary.share_iff _).mp ⟨hrange.mwfact_pos, hrange.mwfact_le⟩
    normal := rfl
    focused := rfl
    textNormal := rfl
    textFocused := rfl }

/-- **Every session is well formed**, whatever the text or the file is and whatever the platform
does. -/
theorem sessions_wellFormed (p : Platform σ) (state : σ) (r : Session) :
    (∀ text, ((ofText p text).start state).1 = .ok r → r.WellFormed (Settings.parse text).value) ∧
      ∀ contents explicit home, ((load p contents explicit home).start state).1 = .ok r →
        ∃ path, Settings.locate? explicit home = some path ∧
          r.WellFormed (Settings.ofBytes (contents path)).value := by
  constructor
  · intro text h
    rw [start_eq, ofText, runFrom_bind, runFrom_report] at h
    exact wellFormed_of_resolve (inRange_parse text) h
  · intro contents explicit home h
    unfold load at h
    cases hpath : Settings.locate? explicit home with
    | none =>
      rw [hpath] at h
      cases h
    | some path =>
      rw [hpath, start_eq, runFrom_bind, runFrom_report] at h
      exact ⟨path, rfl, wellFormed_of_resolve (inRange_ofBytes (contents path)) h⟩

/-- The session of a text with one tag and one layout, on a platform that has everything. -/
theorem sessions_wellFormed_tile :
    let p : Platform Unit :=
      { screen := 0
        physScreen := 0
        openFont := fun d _ => (.ok d.loaded, ())
        allocColor := fun _ _ => (.ok ⟨1, ⟨0, 0, 0⟩⟩, ())
        numLockMask := fun _ => (.ok 16, ()) }
    ∃ r, ((ofText p "[[tags.tag]]\ntitle='1'\n[[layouts.layout]]\ntitle='tile'\n").start ()).1 =
        .ok r ∧
      r.WellFormed (parse "[[tags.tag]]\ntitle='1'\n[[layouts.layout]]\ntitle='tile'\n").value := by
  intro p
  have h : document? "[[tags.tag]]\ntitle='1'\n[[layouts.layout]]\ntitle='tile'\n" = some [
      ("tags", .table [("tag", .array [.table [("title", .string "1")]])]),
      ("layouts", .table [("layout", .array [.table [("title", .string "tile")]])])] := by
    decide +kernel
  have hlisted := listed_sections (keysOnce_of_document h)
  have htags : (parse "[[tags.tag]]\ntitle='1'\n[[layouts.layout]]\ntitle='tile'\n").value.tags =
      [{ title := "1" }] := by
    rw [parse_of_document h]
    exact (hlisted .tags).trans rfl
  have hlayouts : (parse
      "[[tags.tag]]\ntitle='1'\n[[layouts.layout]]\ntitle='tile'\n").value.layouts.layout =
      [{ title := "tile" }] := by
    rw [parse_of_document h]
    exact (hlisted .layouts).trans rfl
  have hsession : ∀ (s : Settings) (ws : List Warning), startable s = true → s.tags ≠ [] →
      ∃ r, ((resolve p s).runFrom ⟨(), ws⟩).1 = .ok r := fun s ws hstart htags =>
    ⟨_, resolve_eq_ok_iff.mpr ⟨_, _, _, _, rfl, hstart, htags, rfl⟩⟩
  obtain ⟨r, hr⟩ := hsession _ ([] ++ _) (startable_iff.mpr ⟨_, _, hlayouts, .tile, rfl⟩)
    (ne_of_eq_of_ne htags (List.cons_ne_nil _ _))
  have hload : ((ofText p "[[tags.tag]]\ntitle='1'\n[[layouts.layout]]\ntitle='tile'\n").start
      ()).1 = .ok r := by
    rw [start_eq, ofText, runFrom_bind, runFrom_report]
    exact hr
  exact ⟨r, hload, (sessions_wellFormed p () r).1 _ hload⟩

end Loading

end WmConfig
