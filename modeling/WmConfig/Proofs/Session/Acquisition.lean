import WmConfig.Proofs.Session.Calls

/-! # The ways a load ends

A load on any platform ends in one of five ways, and leaves the platform in the state that its
actions one after the other lead to (`Loads`). Every load ends in one of them (`exists_loads`), and
this is what running it gives (`Loads.runFrom`). The colours are allocated in the order of the
palette, up to the first one that is refused (`Allocates`). -/

namespace WmConfig

namespace Palette

variable {α β : Type}

theorem toList_mapM {m : Type → Type} [Monad m] [LawfulMonad m] (f : α → m β) (p : Palette α) :
    toList <$> p.mapM f = p.toList.mapM f := by
  simp [mapM, toList, List.mapM_cons]

theorem toList_inj {p q : Palette α} : p.toList = q.toList ↔ p = q := by
  refine ⟨fun h => ?_, congrArg toList⟩
  cases p
  cases q
  simpa [toList] using h

end Palette

namespace Loading

variable {σ α β : Type} {p : Platform σ} {s : Settings} {state state' : σ} {ws : List Warning}

theorem runFrom_map (f : α → β) (load : Loading σ α) (prog : Progress σ) :
    (f <$> load).runFrom prog =
      ((load.runFrom prog).1.map f, (load.runFrom prog).2) := by
  rw [← bind_pure_comp, runFrom_bind]
  rcases load.runFrom prog with ⟨_ | a, prog'⟩ <;> rfl

/-! ### Colours one after the other -/

/-- The colours that are allocated up to the first one that is refused, if any is. -/
inductive Allocates (p : Platform σ) :
    σ → List String → List AllocatedColor → Option (String × Failure) → σ → Prop
  | done {state : σ} : Allocates p state [] [] none state
  | refused {state state' : σ} {spec : String} {specs : List String} {failure : Failure}
      (answer : p.allocColor spec state = (.error failure, state')) :
      Allocates p state (spec :: specs) [] (some (spec, failure)) state'
  | granted {state between state' : σ} {spec : String} {specs : List String} {c : AllocatedColor}
      {cs : List AllocatedColor} {refusal : Option (String × Failure)}
      (answer : p.allocColor spec state = (.ok c, between))
      (rest : Allocates p between specs cs refusal state') :
      Allocates p state (spec :: specs) (c :: cs) refusal state'

theorem exists_allocates (p : Platform σ) (state : σ) (specs : List String) :
    ∃ cs refusal state', Allocates p state specs cs refusal state' := by
  induction specs generalizing state with
  | nil => exact ⟨_, _, _, .done⟩
  | cons spec specs ih =>
    rcases hanswer : p.allocColor spec state with ⟨failure | c, between⟩
    · exact ⟨_, _, _, .refused hanswer⟩
    · obtain ⟨cs, refusal, state', hrest⟩ := ih between
      exact ⟨_, _, _, .granted hanswer hrest⟩

/-- The palette has a place for each colour, so none is left over. -/
theorem Allocates.length_eq {specs : List String} {cs : List AllocatedColor}
    (h : Allocates p state specs cs none state') : cs.length = specs.length := by
  generalize hrefusal : (none : Option (String × Failure)) = refusal at h
  induction h with
  | done => rfl
  | refused => cases hrefusal
  | granted _ _ ih => rw [List.length_cons, List.length_cons, ih hrefusal]

/-- The load that allocates a colour. -/
def color (p : Platform σ) (spec : String) : Loading σ AllocatedColor :=
  require (fun failure => .color spec failure.reason) (p.allocColor spec)

/-- What a load makes of the colours. -/
def allOf (cs : List AllocatedColor) :
    Option (String × Failure) → Except LoadError (List AllocatedColor)
  | none => .ok cs
  | some (spec, failure) => .error (.color spec failure.reason)

theorem Allocates.runFrom_mapM {specs : List String} {cs : List AllocatedColor}
    {refusal : Option (String × Failure)} (h : Allocates p state specs cs refusal state')
    (ws : List Warning) :
    (specs.mapM (color p)).runFrom ⟨state, ws⟩ = (allOf cs refusal, ⟨state', ws⟩) := by
  induction h with
  | done => rfl
  | refused answer =>
    rw [List.mapM_cons, runFrom_bind, color, runFrom_require, answer]
    rfl
  | granted answer rest ih =>
    rename_i refusal
    rw [List.mapM_cons, runFrom_bind, color, runFrom_require, answer]
    simp only [Except.mapError, runFrom_bind, ih]
    cases refusal <;> rfl

theorem Allocates.runFrom_palette {specs : Palette String} {cs : List AllocatedColor}
    {refusal : Option (String × Failure)} (h : Allocates p state specs.toList cs refusal state')
    (ws : List Warning) :
    ((specs.mapM (color p)).runFrom ⟨state, ws⟩).1.map Palette.toList = allOf cs refusal ∧
      ((specs.mapM (color p)).runFrom ⟨state, ws⟩).2 = ⟨state', ws⟩ := by
  have hcolors := h.runFrom_mapM ws
  rw [← Palette.toList_mapM, runFrom_map] at hcolors
  exact Prod.mk.inj hcolors

/-! ### The font and the colours -/

theorem acquire_of_no_font {failure : Failure}
    (h : p.openFont (.parse s.general.font) state = (.error failure, state')) :
    (acquire p s).runFrom ⟨state, ws⟩ =
      (.error (.font s.general.font failure.reason), ⟨state', ws⟩) := by
  unfold acquire
  rw [runFrom_bind, runFrom_require, h]
  rfl

section Font
variable {between : σ} {font : LoadedFont}
  (hfont : p.openFont (.parse s.general.font) state = (.ok font, between))
include hfont

theorem runFrom_acquire :
    (acquire p s).runFrom ⟨state, ws⟩ =
      ((Prod.mk font) <$> s.colors.mapM (color p) : Loading σ _).runFrom ⟨between, ws⟩ := by
  unfold acquire
  rw [runFrom_bind, runFrom_require, hfont, ← bind_pure_comp]
  rfl

theorem acquire_of_refused {cs : List AllocatedColor} {spec : String} {failure : Failure}
    (h : Allocates p between s.colors.toList cs (some (spec, failure)) state') :
    (acquire p s).runFrom ⟨state, ws⟩ = (.error (.color spec failure.reason), ⟨state', ws⟩) := by
  obtain ⟨hresult, hprog⟩ := h.runFrom_palette ws
  rw [runFrom_acquire hfont, runFrom_map, hprog]
  cases hrun : ((s.colors.mapM (color p)).runFrom ⟨between, ws⟩).1 with
  | error e =>
    rw [hrun] at hresult
    rw [Except.map, Except.error.inj hresult]
  | ok colors =>
    rw [hrun] at hresult
    cases hresult

theorem acquire_of_granted {colors : Palette AllocatedColor}
    (h : Allocates p between s.colors.toList colors.toList none state') :
    (acquire p s).runFrom ⟨state, ws⟩ = (.ok (font, colors), ⟨state', ws⟩) := by
  obtain ⟨hresult, hprog⟩ := h.runFrom_palette ws
  rw [runFrom_acquire hfont, runFrom_map, hprog]
  cases hrun : ((s.colors.mapM (color p)).runFrom ⟨between, ws⟩).1 with
  | error e =>
    rw [hrun] at hresult
    cases hresult
  | ok colors' =>
    rw [hrun] at hresult
    rw [Except.map, Palette.toList_inj.mp (Except.ok.inj hresult)]

end Font

/-! ### Ends of a load -/

/-- What settings lack for a session. -/
inductive Missing (s : Settings) : LoadError → Prop
  | layout (layout : ¬ HasDefaultLayout s) : Missing s .noDefaultLayout
  | tags (tags : s.tags = []) : Missing s .noTags

/-- The end of a load: its result, the state of the platform and the warnings. -/
inductive Loads (p : Platform σ) (s : Settings) (state : σ) :
    Except LoadError Session → σ → List Warning → Prop
  | noFont {failure : Failure} {state' : σ}
      (font : p.openFont (.parse s.general.font) state = (.error failure, state')) :
      Loads p s state (.error (.font s.general.font failure.reason)) state' []
  | refused {font : LoadedFont} {between state' : σ} {cs : List AllocatedColor} {spec : String}
      {failure : Failure}
      (opened : p.openFont (.parse s.general.font) state = (.ok font, between))
      (colors : Allocates p between s.colors.toList cs (some (spec, failure)) state') :
      Loads p s state (.error (.color spec failure.reason)) state' []
  | noDefaultLayout {font : LoadedFont} {between state' : σ} {colors : Palette AllocatedColor}
      (opened : p.openFont (.parse s.general.font) state = (.ok font, between))
      (granted : Allocates p between s.colors.toList colors.toList none state')
      (layout : ¬ HasDefaultLayout s) :
      Loads p s state (.error .noDefaultLayout) state'
        (Session.Layout.ofEntries s.layouts.layout).warnings
  | noTags {font : LoadedFont} {between state' : σ} {colors : Palette AllocatedColor}
      (opened : p.openFont (.parse s.general.font) state = (.ok font, between))
      (granted : Allocates p between s.colors.toList colors.toList none state')
      (layout : HasDefaultLayout s) (tags : s.tags = []) :
      Loads p s state (.error .noTags) state'
        ((Session.Layout.ofEntries s.layouts.layout).warnings ++
          (Reported.map Session.Rule.ofSettings s.rules).warnings)
  | loaded {font : LoadedFont} {between asked state' : σ} {colors : Palette AllocatedColor}
      {answer : Except Failure UInt16}
      (opened : p.openFont (.parse s.general.font) state = (.ok font, between))
      (granted : Allocates p between s.colors.toList colors.toList none asked)
      (layout : HasDefaultLayout s) (tags : s.tags ≠ [])
      (numLock : p.numLockMask asked = (answer, state')) :
      Loads p s state (.ok (session p s font colors (numLockOf answer).value)) state'
        ((Session.Layout.ofEntries s.layouts.layout).warnings ++
          (Reported.map Session.Rule.ofSettings s.rules).warnings ++
          (numLockOf answer).warnings ++
          (Reported.map Session.KeyBinding.ofSettings s.keys.key).warnings)

/-- **Every load ends in one of the ways.** -/
theorem exists_loads (p : Platform σ) (s : Settings) (state : σ) :
    ∃ result state' ws, Loads p s state result state' ws := by
  rcases hfont : p.openFont (.parse s.general.font) state with ⟨failure | font, between⟩
  · exact ⟨_, _, _, .noFont hfont⟩
  obtain ⟨cs, refusal, asked, hcolors⟩ := exists_allocates p between s.colors.toList
  cases refusal with
  | some refusal => exact ⟨_, _, _, .refused hfont hcolors⟩
  | none =>
    -- Six colours make a palette.
    obtain ⟨colors, rfl⟩ : ∃ colors : Palette AllocatedColor, colors.toList = cs := by
      match cs, hcolors.length_eq with
      | [a, b, c, d, e, f], _ => exact ⟨⟨a, b, c, d, e, f⟩, rfl⟩
    by_cases hlayout : HasDefaultLayout s
    · by_cases htags : s.tags = []
      · exact ⟨_, _, _, .noTags hfont hcolors hlayout htags⟩
      · exact ⟨_, _, _, .loaded hfont hcolors hlayout htags rfl⟩
    · exact ⟨_, _, _, .noDefaultLayout hfont hcolors hlayout⟩

/-- **The end of a load is what running it gives.** -/
theorem Loads.runFrom {result : Except LoadError Session} (h : Loads p s state result state' ws)
    (earlier : List Warning) :
    (resolve p s).runFrom ⟨state, earlier⟩ = (result, ⟨state', earlier ++ ws⟩) := by
  cases h with
  | noFont font => rw [resolve_of_error (acquire_of_no_font font), List.append_nil]
  | refused opened colors =>
    rw [resolve_of_error (acquire_of_refused opened colors), List.append_nil]
  | noDefaultLayout opened granted layout =>
    rw [resolve_of_not_startable (acquire_of_granted opened granted) (mt startable_iff.mp layout)]
  | noTags opened granted layout tags =>
    rw [resolve_of_no_tags (acquire_of_granted opened granted) (startable_iff.mpr layout) tags,
      List.append_assoc]
  | loaded opened granted layout tags numLock =>
    rw [resolve_of_startable (acquire_of_granted opened granted) (startable_iff.mpr layout) tags,
      numLock]
    simp only [List.append_assoc]

theorem Loads.start {result : Except LoadError Session} (h : Loads p s state result state' ws) :
    (resolve p s).start state = (result, ⟨state', ws⟩) :=
  h.runFrom []

end Loading

end WmConfig
