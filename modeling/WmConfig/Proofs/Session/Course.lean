import WmConfig.Session.Load

/-! # Running a load

What a load does from a given progress: the steps one after the other, up to the first one that ends
it. `runFrom_resolve` says how the session of settings comes about: the font and the colours are
acquired; then a session is made of them, unless there is no layout to start with or no tag. -/

namespace WmConfig.Loading

variable {σ α β : Type}

/-- Runs a load from the given progress. -/
def runFrom (load : Loading σ α) (prog : Progress σ) : Except LoadError α × Progress σ :=
  (load.run.run prog : Id _)

/-! ### Steps -/

theorem start_eq (load : Loading σ α) (state : σ) :
    load.start state = load.runFrom ⟨state, []⟩ := rfl

@[simp] theorem runFrom_pure (a : α) (prog : Progress σ) :
    (pure a : Loading σ α).runFrom prog = (.ok a, prog) := rfl

theorem runFrom_bind (x : Loading σ α) (f : α → Loading σ β) (prog : Progress σ) :
    (x >>= f).runFrom prog =
      match x.runFrom prog with
      | (.ok a, prog') => (f a).runFrom prog'
      | (.error e, prog') => (.error e, prog') := by
  unfold runFrom
  rw [ExceptT.run_bind, StateT.run_bind]
  rcases (StateT.run (ExceptT.run x) prog : Id _) with ⟨_ | a, prog'⟩
  · rfl
  · rfl

@[simp] theorem runFrom_report (r : Reported α) (prog : Progress σ) :
    (report r : Loading σ α).runFrom prog =
      (.ok r.value, ⟨prog.platform, prog.warnings ++ r.warnings⟩) := rfl

@[simp] theorem runFrom_act (action : σ → α × σ) (prog : Progress σ) :
    (act action).runFrom prog =
      (.ok (action prog.platform).1, { prog with platform := (action prog.platform).2 }) := rfl

theorem runFrom_require (fatal : Failure → LoadError) (action : σ → Except Failure α × σ)
    (prog : Progress σ) :
    (require fatal action).runFrom prog =
      ((action prog.platform).1.mapError fatal,
        { prog with platform := (action prog.platform).2 }) := by
  unfold require
  rw [runFrom_bind, runFrom_act]
  rcases (action prog.platform) with ⟨_ | a, state⟩ <;> rfl

/-- What an answer about the modifier that locks the keypad counts as. -/
def numLockOf : Except Failure UInt16 → Reported UInt16
  | .ok mask => pure mask
  | .error _ => ⟨0, [.numLockUnavailable]⟩

theorem eq_numLockUnavailable_of_mem {answer : Except Failure UInt16} {w : Warning}
    (hw : w ∈ (numLockOf answer).warnings) : w = .numLockUnavailable := by
  cases answer with
  | ok mask => cases hw
  | error failure => exact List.mem_singleton.mp hw

theorem runFrom_numLockMask (p : Platform σ) (prog : Progress σ) :
    (numLockMask p).runFrom prog =
      (.ok (numLockOf (p.numLockMask prog.platform).1).value,
        ⟨(p.numLockMask prog.platform).2,
          prog.warnings ++ (numLockOf (p.numLockMask prog.platform).1).warnings⟩) := by
  unfold numLockMask
  rw [runFrom_bind, runFrom_act]
  rcases p.numLockMask prog.platform with ⟨_ | mask, state⟩
  · rfl
  · simp [numLockOf]

/-! ### The session of settings -/

/-- Acquires the font and the colours. -/
def acquire (p : Platform σ) (s : Settings) : Loading σ (LoadedFont × Palette AllocatedColor) := do
  let font ← require (fun failure => .font s.general.font failure.reason)
    (p.openFont (.parse s.general.font))
  let colors ← s.colors.mapM fun spec =>
    require (fun failure => .color spec failure.reason) (p.allocColor spec)
  return (font, colors)

/-- The session made of what was acquired. -/
def session (p : Platform σ) (s : Settings) (font : LoadedFont) (colors : Palette AllocatedColor)
    (numLockMask : UInt16) : Session where
  statusText := Session.initialText
  screen := p.screen
  physScreen := p.physScreen
  general := general s.general
  colors
  theme := .ofPalette font colors
  statusBar := .at (.ofText s.statusbar.position)
  layouts := (Session.Layout.ofEntries s.layouts.layout).value
  currentLayout := firstLayout
  tiling := ⟨s.layouts.mwfact, s.layouts.nmaster, s.layouts.ncol⟩
  rules := (Reported.map Session.Rule.ofSettings s.rules).value
  tags := Session.Tag.ofEntries firstLayout s.tags
  keys := (Reported.map Session.KeyBinding.ofSettings s.keys.key).value
  modkey := Session.mainModifier s.keys.modkey
  numLockMask

/-- Whether there is a layout to start with. -/
def startable (s : Settings) : Bool :=
  (Session.Layout.ofEntries s.layouts.layout).value[firstLayout]?.any (·.isUsable)

/-- **The course of a load**: the font and the colours are acquired; then a session is made of the
settings, unless there is no layout to start with or no tag. -/
theorem runFrom_resolve (p : Platform σ) (s : Settings) (prog : Progress σ) :
    (resolve p s).runFrom prog =
      match (acquire p s).runFrom prog with
      | (.error e, prog') => (.error e, prog')
      | (.ok (font, colors), ⟨state, ws⟩) =>
        let layouts := Session.Layout.ofEntries s.layouts.layout
        let rules := Reported.map Session.Rule.ofSettings s.rules
        let keys := Reported.map Session.KeyBinding.ofSettings s.keys.key
        let numLock := numLockOf (p.numLockMask state).1
        if ¬ startable s then (.error .noDefaultLayout, ⟨state, ws ++ layouts.warnings⟩)
        else if s.tags.isEmpty then
          (.error .noTags, ⟨state, ws ++ layouts.warnings ++ rules.warnings⟩)
        else
          (.ok (session p s font colors numLock.value), ⟨(p.numLockMask state).2,
            ws ++ layouts.warnings ++ rules.warnings ++ numLock.warnings ++ keys.warnings⟩) := by
  unfold resolve acquire
  rw [runFrom_bind, runFrom_bind]
  rcases (require _ _).runFrom prog with ⟨_ | font, prog₁⟩
  · rfl
  simp only [runFrom_bind]
  rcases Loading.runFrom (Palette.mapM _ s.colors) prog₁ with ⟨_ | colors, state, ws⟩
  · rfl
  have hstartable : (Session.Layout.ofEntries s.layouts.layout).value[firstLayout]?.any
      (·.isUsable) = startable s := rfl
  have htags : (Session.Tag.ofEntries firstLayout s.tags).isEmpty = s.tags.isEmpty := by
    cases s.tags <;> rfl
  simp only [runFrom_report, runFrom_pure, hstartable, htags]
  cases startable s
  · rfl
  cases s.tags.isEmpty
  · simp only [runFrom_bind, runFrom_numLockMask, runFrom_report, runFrom_pure, if_true,
      Bool.false_eq_true, if_false, not_true_eq_false]
    rfl
  · rfl

section Courses
variable {p : Platform σ} {s : Settings} {prog : Progress σ}

theorem resolve_of_error {e : LoadError} {prog' : Progress σ}
    (h : (acquire p s).runFrom prog = (.error e, prog')) :
    (resolve p s).runFrom prog = (.error e, prog') := by
  rw [runFrom_resolve, h]

variable {font : LoadedFont} {colors : Palette AllocatedColor} {state : σ} {ws : List Warning}
  (h : (acquire p s).runFrom prog = (.ok (font, colors), ⟨state, ws⟩))
include h

theorem resolve_of_not_startable (hstart : ¬ startable s = true) :
    (resolve p s).runFrom prog = (.error .noDefaultLayout,
      ⟨state, ws ++ (Session.Layout.ofEntries s.layouts.layout).warnings⟩) := by
  rw [runFrom_resolve, h]
  exact if_pos hstart

theorem resolve_of_no_tags (hstart : startable s = true) (htags : s.tags = []) :
    (resolve p s).runFrom prog = (.error .noTags,
      ⟨state, ws ++ (Session.Layout.ofEntries s.layouts.layout).warnings ++
        (Reported.map Session.Rule.ofSettings s.rules).warnings⟩) := by
  rw [runFrom_resolve, h]
  exact (if_neg (not_not_intro hstart)).trans (if_pos (List.isEmpty_iff.mpr htags))

theorem resolve_of_startable (hstart : startable s = true) (htags : s.tags ≠ []) :
    (resolve p s).runFrom prog =
      (.ok (session p s font colors (numLockOf (p.numLockMask state).1).value),
        ⟨(p.numLockMask state).2, ws ++ (Session.Layout.ofEntries s.layouts.layout).warnings ++
          (Reported.map Session.Rule.ofSettings s.rules).warnings ++
          (numLockOf (p.numLockMask state).1).warnings ++
          (Reported.map Session.KeyBinding.ofSettings s.keys.key).warnings⟩) := by
  rw [runFrom_resolve, h]
  exact (if_neg (not_not_intro hstart)).trans (if_neg (mt List.isEmpty_iff.mp htags))

end Courses

/-- There is a session iff the font and the colours are acquired and there are a layout to start
with and a tag. -/
theorem resolve_eq_ok_iff {p : Platform σ} {s : Settings} {prog : Progress σ} {r : Session} :
    ((resolve p s).runFrom prog).1 = .ok r ↔
      ∃ font colors state ws, (acquire p s).runFrom prog = (.ok (font, colors), ⟨state, ws⟩) ∧
        startable s = true ∧ s.tags ≠ [] ∧
        r = session p s font colors (numLockOf (p.numLockMask state).1).value := by
  constructor
  · intro h
    rcases hacquire : (acquire p s).runFrom prog with ⟨e | ⟨font, colors⟩, state, ws⟩
    · rw [resolve_of_error hacquire] at h
      cases h
    by_cases hstart : startable s = true
    · by_cases htags : s.tags = []
      · rw [resolve_of_no_tags hacquire hstart htags] at h
        cases h
      · rw [resolve_of_startable hacquire hstart htags] at h
        exact ⟨font, colors, state, ws, rfl, hstart, htags, (Except.ok.inj h).symm⟩
    · rw [resolve_of_not_startable hacquire hstart] at h
      cases h
  · rintro ⟨font, colors, state, ws, hacquire, hstart, htags, rfl⟩
    rw [resolve_of_startable hacquire hstart htags]

end WmConfig.Loading
