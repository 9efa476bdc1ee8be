import WmConfig.Platform.Recorded
import WmConfig.Proofs.Session.Course
import WmConfig.Proofs.Session.Names
import WmConfig.Proofs.Session.Rules

/-! # The calls of a load

On a platform of which any action may fail, and on which each action may depend on the ones before,
the course of a load is still fixed (`Course`): the font is asked for, then the colours one by one,
and the first failure ends the load; then a first layout and a tag have to be there; only a load
that succeeds asks for the modifier that locks the keypad, and it succeeds without an answer, too
(`fatal_errors_in_order`).

The calls are read off a recorded platform, on which a load does what it does on the platform itself
(`mirrors_resolve`). -/

namespace WmConfig.Loading

variable {σ α β : Type}

/-! ### The first call that fails -/

/-- The error made of an answer that is a failure. -/
def refusal (fatal : Failure → LoadError) : Except Failure α → Option LoadError
  | .ok _ => none
  | .error failure => some (fatal failure)

/-- The error that a call ends the load of the settings with, if it does, and the state of the
platform after the call. -/
def verdict (p : Platform σ) (s : Settings) : Call → σ → Option LoadError × σ
  | .openFont d, state =>
    (refusal (fun failure => .font s.general.font failure.reason) (p.openFont d state).1,
      (p.openFont d state).2)
  | .allocColor spec, state =>
    (refusal (fun failure => .color spec failure.reason) (p.allocColor spec state).1,
      (p.allocColor spec state).2)
  | .numLockMask, state => (none, (p.numLockMask state).2)

/-- The state of the platform after the calls. -/
def after (p : Platform σ) (s : Settings) (state : σ) (cs : List Call) : σ :=
  cs.foldl (fun state c => (verdict p s c state).2) state

/-- The calls up to the first one that ends the load, with its error. -/
def firstFatal? (p : Platform σ) (s : Settings) : σ → List Call → Option (List Call × LoadError)
  | _, [] => none
  | state, c :: cs =>
    match verdict p s c state with
    | (some e, _) => some ([c], e)
    | (none, state') => (firstFatal? p s state' cs).map fun (made, e) => (c :: made, e)

variable {p : Platform σ} {s : Settings}

theorem firstFatal?_append (cs ds : List Call) (state : σ) :
    firstFatal? p s state (cs ++ ds) =
      match firstFatal? p s state cs with
      | some ending => some ending
      | none => (firstFatal? p s (after p s state cs) ds).map fun (made, e) => (cs ++ made, e) := by
  induction cs generalizing state with
  | nil =>
    simp [firstFatal?, after]
  | cons c cs ih =>
    simp only [List.cons_append, firstFatal?, after, List.foldl_cons]
    rcases verdict p s c state with ⟨_ | e, state'⟩
    · simp only [ih]
      cases firstFatal? p s state' cs with
      | none => simp [after, Function.comp_def]
      | some ending => rfl
    · rfl

/-- The calls end with one of them. -/
theorem prefix_of_firstFatal {cs : List Call} {state : σ} {made : List Call} {e : LoadError}
    (h : firstFatal? p s state cs = some (made, e)) : made <+: cs := by
  induction cs generalizing state made with
  | nil => cases h
  | cons c cs ih =>
    unfold firstFatal? at h
    split at h
    · obtain ⟨rfl, -⟩ := Prod.mk.inj (Option.some.inj h)
      exact List.prefix_append [c] cs
    · obtain ⟨⟨made', e'⟩, hrest, heq⟩ := Option.map_eq_some_iff.mp h
      obtain ⟨rfl, rfl⟩ := Prod.mk.inj heq
      exact List.prefix_cons_inj c |>.mpr (ih hrest)

/-! ### Calls made one by one -/

/-- The load makes the calls one by one up to the first that ends it, and reports nothing. -/
def Makes (p : Platform σ) (s : Settings) (cs : List Call) (load : Loading (Recording σ) α) :
    Prop :=
  ∀ (r : Recording σ) (ws : List Warning),
    match firstFatal? p s r.state cs with
    | some (made, e) => ∃ state,
      load.runFrom ⟨r, ws⟩ = (.error e, ⟨⟨state, r.calls ++ made⟩, ws⟩)
    | none => ∃ a, load.runFrom ⟨r, ws⟩ = (.ok a, ⟨⟨after p s r.state cs, r.calls ++ cs⟩, ws⟩)

theorem Makes.pure (a : α) : Makes p s [] (pure a : Loading (Recording σ) α) := by
  intro r ws
  exact ⟨a, by simp [after]⟩

theorem Makes.bind {cs ds : List Call} {x : Loading (Recording σ) α}
    {f : α → Loading (Recording σ) β} (hx : Makes p s cs x) (hf : ∀ a, Makes p s ds (f a)) :
    Makes p s (cs ++ ds) (x >>= f) := by
  intro r ws
  have hx := hx r ws
  rw [firstFatal?_append]
  rw [runFrom_bind]
  cases hcs : firstFatal? p s r.state cs with
  | some ending =>
    rw [hcs] at hx
    obtain ⟨state, hx⟩ := hx
    exact ⟨state, by rw [hx]⟩
  | none =>
    rw [hcs] at hx
    obtain ⟨a, hx⟩ := hx
    have hf := hf a ⟨after p s r.state cs, r.calls ++ cs⟩ ws
    rw [hx]
    simp only at hf ⊢
    cases hds : firstFatal? p s (after p s r.state cs) ds with
    | some ending =>
      rw [hds] at hf
      obtain ⟨state, hf⟩ := hf
      exact ⟨state, by simpa using hf⟩
    | none =>
      rw [hds] at hf
      obtain ⟨b, hf⟩ := hf
      exact ⟨b, by simpa [after] using hf⟩

theorem Makes.require {c : Call} {fatal : Failure → LoadError} {action : σ → Except Failure α × σ}
    (h : ∀ state, verdict p s c state = (refusal fatal (action state).1, (action state).2)) :
    Makes p s [c] (require fatal (Recording.act c action)) := by
  intro r ws
  have hrun : (Loading.require fatal (Recording.act c action)).runFrom ⟨r, ws⟩ =
      ((action r.state).1.mapError fatal, ⟨⟨(action r.state).2, r.calls ++ [c]⟩, ws⟩) :=
    runFrom_require fatal (Recording.act c action) ⟨r, ws⟩
  have hc := h r.state
  rw [hrun]
  unfold firstFatal? after
  rw [List.foldl_cons, List.foldl_nil, hc]
  rcases action r.state with ⟨failure | a, state'⟩
  · exact ⟨state', rfl⟩
  · exact ⟨a, rfl⟩

theorem Makes.mapM {f : String → Loading (Recording σ) AllocatedColor}
    (hf : ∀ spec, Makes p s [.allocColor spec] (f spec)) (colors : Palette String) :
    Makes p s (colors.toList.map .allocColor) (colors.mapM f) :=
  .bind (hf _) fun _ => .bind (hf _) fun _ => .bind (hf _) fun _ => .bind (hf _) fun _ =>
    .bind (hf _) fun _ => .bind (hf _) fun _ => .pure _

/-- The calls that have to succeed. -/
def required (s : Settings) : List Call :=
  .openFont (.parse s.general.font) :: s.colors.toList.map .allocColor

/-- The font and the colours are acquired call by call. -/
theorem makes_acquire (p : Platform σ) (s : Settings) :
    Makes p s (required s) (acquire p.recorded s) := by
  have hfont : Makes p s [.openFont (.parse s.general.font)]
      (Loading.require (fun failure => .font s.general.font failure.reason)
        (p.recorded.openFont (.parse s.general.font))) := .require fun _ => rfl
  have hcolor : ∀ spec, Makes p s [.allocColor spec]
      (Loading.require (fun failure => .color spec failure.reason) (p.recorded.allocColor spec)) :=
    fun _ => .require fun _ => rfl
  have hcolors := Makes.mapM hcolor s.colors
  have hpair : ∀ font : LoadedFont, Makes p s (s.colors.toList.map .allocColor ++ [])
      (do
        let colors ← s.colors.mapM fun spec =>
          Loading.require (fun failure => .color spec failure.reason) (p.recorded.allocColor spec)
        return (font, colors)) := fun font => hcolors.bind fun colors => .pure (font, colors)
  simp only [List.append_nil] at hpair
  exact hfont.bind hpair

/-! ### The course of a load -/

/-- Whether there is a first layout and its title names an arrangement. -/
def HasDefaultLayout (s : Settings) : Prop :=
  ∃ first rest, s.layouts.layout = first :: rest ∧ ∃ a : Arrangement, a.name = first.title

theorem startable_iff : startable s = true ↔ HasDefaultLayout s := by
  unfold startable HasDefaultLayout Session.Layout.ofEntries firstLayout
  cases s.layouts.layout with
  | nil => simp
  | cons first rest =>
    simp only [Reported.value_map, List.zipIdx_cons, List.map_cons, List.getElem?_cons_zero,
      Option.any_some, Session.Layout.isUsable_ofSettings]
    constructor
    · rintro ⟨a, ha⟩
      exact ⟨first, rest, rfl, a, ha⟩
    · rintro ⟨first', rest', heq, a, ha⟩
      obtain ⟨rfl, -⟩ := List.cons.inj heq
      exact ⟨a, ha⟩

/-- What a load does by the rules: the calls that it makes, its result and its warnings. -/
inductive Course (p : Platform σ) (s : Settings) (state : σ) :
    List Call → Except LoadError Session → List Warning → Prop
  /-- A call that has to succeed fails, and is the last one. -/
  | fatal {made : List Call} {e : LoadError}
      (failed : firstFatal? p s state (required s) = some (made, e)) :
      Course p s state made (.error e) []
  /-- There is no layout to start with. -/
  | noDefaultLayout (acquired : firstFatal? p s state (required s) = none)
      (layout : ¬ HasDefaultLayout s) :
      Course p s state (required s) (.error .noDefaultLayout)
        (Session.Layout.ofEntries s.layouts.layout).warnings
  /-- There is no tag. -/
  | noTags (acquired : firstFatal? p s state (required s) = none) (layout : HasDefaultLayout s)
      (tags : s.tags = []) :
      Course p s state (required s) (.error .noTags)
        ((Session.Layout.ofEntries s.layouts.layout).warnings ++
          (Reported.map Session.Rule.ofSettings s.rules).warnings)
  /-- Nothing is missing; only now the platform is asked for the modifier that locks the keypad. -/
  | loaded (acquired : firstFatal? p s state (required s) = none) (layout : HasDefaultLayout s)
      (tags : s.tags ≠ []) (font : LoadedFont) (colors : Palette AllocatedColor)
      {numLock : Reported UInt16}
      (answer : numLock = numLockOf (p.numLockMask (after p s state (required s))).1) :
      Course p s state (required s ++ [.numLockMask]) (.ok (session p s font colors numLock.value))
        ((Session.Layout.ofEntries s.layouts.layout).warnings ++
          (Reported.map Session.Rule.ofSettings s.rules).warnings ++ numLock.warnings ++
          (Reported.map Session.KeyBinding.ofSettings s.keys.key).warnings)

/-- **A load takes the course of the rules.** -/
theorem course_resolve (p : Platform σ) (s : Settings) (state : σ) :
    Course p s state ((resolve p.recorded s).start ⟨state, []⟩).2.platform.calls
      ((resolve p.recorded s).start ⟨state, []⟩).1
      ((resolve p.recorded s).start ⟨state, []⟩).2.warnings := by
  have hacquire := makes_acquire p s ⟨state, []⟩ []
  rw [start_eq]
  cases hfatal : firstFatal? p s state (required s) with
  | some ending =>
    rw [hfatal] at hacquire
    obtain ⟨state', hacquire⟩ := hacquire
    rw [resolve_of_error hacquire]
    exact .fatal hfatal
  | none =>
    rw [hfatal] at hacquire
    obtain ⟨⟨font, colors⟩, hacquire⟩ := hacquire
    by_cases hlayout : HasDefaultLayout s
    · have hstart := startable_iff.mpr hlayout
      by_cases htags : s.tags = []
      · rw [resolve_of_no_tags hacquire hstart htags]
        exact .noTags hfatal hlayout htags
      · rw [resolve_of_startable hacquire hstart htags]
        exact .loaded hfatal hlayout htags font colors rfl
    · rw [resolve_of_not_startable hacquire (mt startable_iff.mp hlayout)]
      exact .noDefaultLayout hfatal hlayout

section Courses
variable {state : σ} {calls : List Call} {result : Except LoadError Session} {ws : List Warning}

theorem Course.prefix_calls (h : Course p s state calls result ws) :
    calls <+: required s ++ [.numLockMask] := by
  cases h with
  | fatal failed => exact (prefix_of_firstFatal failed).trans (List.prefix_append _ _)
  | noDefaultLayout | noTags => exact List.prefix_append _ _
  | loaded => exact List.prefix_rfl

theorem numLockMask_notMem_required (s : Settings) : .numLockMask ∉ required s := by
  simp [required]

theorem Course.numLockMask_mem_iff (h : Course p s state calls result ws) :
    .numLockMask ∈ calls ↔ ∃ r, result = .ok r := by
  have hrequired := numLockMask_notMem_required s
  cases h with
  | fatal failed =>
    refine iff_of_false (fun hmem => hrequired ?_) (by rintro ⟨r, hr⟩; cases hr)
    exact (prefix_of_firstFatal failed).subset hmem
  | noDefaultLayout => exact iff_of_false hrequired (by rintro ⟨r, hr⟩; cases hr)
  | noTags => exact iff_of_false hrequired (by rintro ⟨r, hr⟩; cases hr)
  | loaded => exact iff_of_true (List.mem_append_right _ (List.mem_singleton_self _)) ⟨_, rfl⟩

theorem Course.exists_session (h : Course p s state calls result ws)
    (hacquired : firstFatal? p s state (required s) = none) (hlayout : HasDefaultLayout s)
    (htags : s.tags ≠ []) : ∃ r, result = .ok r := by
  cases h with
  | fatal failed =>
    rw [hacquired] at failed
    cases failed
  | noDefaultLayout _ layout => exact absurd hlayout layout
  | noTags _ _ tags => exact absurd tags htags
  | loaded => exact ⟨_, rfl⟩

end Courses

/-! ### Recording changes nothing -/

/-- The progress on a recorded platform, without the record. -/
def unrecorded (prog : Progress (Recording σ)) : Progress σ := ⟨prog.platform.state, prog.warnings⟩

/-- The loads do the same, one of them on a recorded platform. -/
def Mirrors (x : Loading (Recording σ) α) (y : Loading σ α) : Prop :=
  ∀ prog, y.runFrom (unrecorded prog) = ((x.runFrom prog).1, unrecorded (x.runFrom prog).2)

theorem Mirrors.pure (a : α) : Mirrors (pure a : Loading (Recording σ) α) (pure a) := fun _ => rfl

theorem Mirrors.bind {x : Loading (Recording σ) α} {y : Loading σ α}
    {f : α → Loading (Recording σ) β} {g : α → Loading σ β} (hxy : Mirrors x y)
    (hfg : ∀ a, Mirrors (f a) (g a)) : Mirrors (x >>= f) (y >>= g) := by
  intro prog
  rw [runFrom_bind, runFrom_bind, hxy prog]
  rcases x.runFrom prog with ⟨_ | a, prog'⟩
  · rfl
  · exact hfg a prog'

theorem Mirrors.require (fatal : Failure → LoadError) (c : Call)
    (action : σ → Except Failure α × σ) :
    Mirrors (require fatal (Recording.act c action)) (require fatal action) := by
  intro prog
  rw [runFrom_require, runFrom_require]
  rfl

theorem Mirrors.mapM {f : String → Loading (Recording σ) AllocatedColor}
    {g : String → Loading σ AllocatedColor} (hfg : ∀ spec, Mirrors (f spec) (g spec))
    (colors : Palette String) : Mirrors (colors.mapM f) (colors.mapM g) :=
  .bind (hfg _) fun _ => .bind (hfg _) fun _ => .bind (hfg _) fun _ => .bind (hfg _) fun _ =>
    .bind (hfg _) fun _ => .bind (hfg _) fun _ => .pure _

theorem mirrors_acquire (p : Platform σ) (s : Settings) :
    Mirrors (acquire p.recorded s) (acquire p s) :=
  .bind (.require _ _ _) fun _ => .bind (.mapM (fun _ => .require _ _ _) _) fun _ => .pure _

/-- **Recording changes nothing**: a load on a recorded platform does what it does on the platform
itself. -/
theorem mirrors_resolve (p : Platform σ) (s : Settings) :
    Mirrors (resolve p.recorded s) (resolve p s) := by
  intro prog
  have hmirror := mirrors_acquire p s prog
  rcases hacquire : (acquire p.recorded s).runFrom prog with ⟨e | ⟨font, colors⟩, r, ws⟩
  · rw [hacquire] at hmirror
    rw [resolve_of_error hacquire, resolve_of_error hmirror]
  rw [hacquire] at hmirror
  by_cases hstart : startable s = true
  · by_cases htags : s.tags = []
    · rw [resolve_of_no_tags hacquire hstart htags, resolve_of_no_tags hmirror hstart htags]
      rfl
    · rw [resolve_of_startable hacquire hstart htags, resolve_of_startable hmirror hstart htags]
      rfl
  · rw [resolve_of_not_startable hacquire hstart, resolve_of_not_startable hmirror hstart]
    rfl

/-! ### The modifier that locks the keypad -/

theorem numLockUnavailable_notMem (s : Settings) :
    .numLockUnavailable ∉ (Session.Layout.ofEntries s.layouts.layout).warnings ∧
      .numLockUnavailable ∉ (Reported.map Session.Rule.ofSettings s.rules).warnings ∧
      .numLockUnavailable ∉ (Reported.map Session.KeyBinding.ofSettings s.keys.key).warnings := by
  refine ⟨fun h => ?_, fun h => ?_, fun h => ?_⟩
  · obtain ⟨index, name, ⟨⟩⟩ := Session.Layout.eq_unknownLayout_of_mem h
  · obtain ⟨field, text, ⟨⟩⟩ := Session.Rule.eq_invalidPattern_of_mem h
  · obtain ⟨entry, -, h⟩ := List.mem_flatMap.mp h
    simp [Session.KeyBinding.ofSettings, Reported.warnIf] at h

/-- Only the answer about the modifier is reported as missing. -/
theorem count_numLockUnavailable (s : Settings) (ws : List Warning) :
    ((Session.Layout.ofEntries s.layouts.layout).warnings ++
        (Reported.map Session.Rule.ofSettings s.rules).warnings ++ ws ++
        (Reported.map Session.KeyBinding.ofSettings s.keys.key).warnings).count
          .numLockUnavailable = ws.count .numLockUnavailable := by
  obtain ⟨hlayouts, hrules, hkeys⟩ := numLockUnavailable_notMem s
  rw [List.count_append, List.count_append, List.count_append, List.count_eq_zero.mpr hlayouts,
    List.count_eq_zero.mpr hrules, List.count_eq_zero.mpr hkeys]
  omega

theorem Course.numLock {state : σ} {calls : List Call} {r : Session} {ws : List Warning}
    (h : Course p s state calls (.ok r) ws) :
    (∀ mask, (p.numLockMask (after p s state (required s))).1 = .ok mask →
      r.numLockMask = mask ∧ .numLockUnavailable ∉ ws) ∧
      ∀ failure, (p.numLockMask (after p s state (required s))).1 = .error failure →
        r.numLockMask = 0 ∧ ws.count .numLockUnavailable = 1 := by
  cases h with
  | loaded acquired layout tags font colors answer =>
    subst answer
    refine ⟨fun mask hmask => ?_, fun failure hfailure => ?_⟩
    · rw [hmask, ← List.count_eq_zero, count_numLockUnavailable]
      exact ⟨rfl, rfl⟩
    · rw [hfailure, count_numLockUnavailable]
      exact ⟨rfl, rfl⟩

/-- **Fatal errors in order, and the calls that are made.** The calls are those that have to
succeed, up to the first that fails, and the one about the keypad after them iff there is a session.
When that one fails, the session has no such modifier and there is one warning about it. -/
theorem fatal_errors_in_order (p : Platform σ) (s : Settings) (state : σ) :
    let run := (resolve p.recorded s).start ⟨state, []⟩
    let calls := run.2.platform.calls
    Course p s state calls run.1 run.2.warnings ∧
      calls <+: required s ++ [.numLockMask] ∧
      (.numLockMask ∈ calls ↔ ∃ r, run.1 = .ok r) ∧
      (∀ r, run.1 = .ok r →
        (∀ mask, (p.numLockMask (after p s state (required s))).1 = .ok mask →
          r.numLockMask = mask ∧ .numLockUnavailable ∉ run.2.warnings) ∧
        ∀ failure, (p.numLockMask (after p s state (required s))).1 = .error failure →
          r.numLockMask = 0 ∧ run.2.warnings.count .numLockUnavailable = 1) ∧
      (resolve p s).start state = (run.1, ⟨run.2.platform.state, run.2.warnings⟩) := by
  have hcourse := course_resolve p s state
  refine ⟨hcourse, hcourse.prefix_calls, hcourse.numLockMask_mem_iff, fun r hr => ?_,
    mirrors_resolve p s ⟨⟨state, []⟩, []⟩⟩
  rw [hr] at hcourse
  exact hcourse.numLock

/-- A load on a platform that does not tell the modifier succeeds with one warning about it. -/
theorem fatal_errors_in_order_untold :
    let p : Platform Unit :=
      { screen := 0
        physScreen := 0
        openFont := fun d _ => (.ok d.loaded, ())
        allocColor := fun _ _ => (.ok ⟨1, ⟨0, 0, 0⟩⟩, ())
        numLockMask := fun _ => (.error (.because "no reply"), ()) }
    let s : Settings :=
      { tags := [{ title := "1" }], layouts := { layout := [{ title := "tile" }] } }
    let run := (resolve p.recorded s).start ⟨(), []⟩
    ∃ r, run.1 = .ok r ∧ r.numLockMask = 0 ∧ run.2.warnings.count .numLockUnavailable = 1 ∧
      .numLockMask ∈ run.2.platform.calls := by
  intro p s run
  obtain ⟨hcourse, -, hmem, hnumLock, -⟩ := fatal_errors_in_order p s ()
  obtain ⟨r, hr⟩ := hcourse.exists_session rfl ⟨_, _, rfl, .tile, rfl⟩ (List.cons_ne_nil _ _)
  obtain ⟨hzero, hcount⟩ := (hnumLock r hr).2 (.because "no reply") rfl
  exact ⟨r, hr, hzero, hcount, hmem.mpr ⟨r, hr⟩⟩

end WmConfig.Loading
