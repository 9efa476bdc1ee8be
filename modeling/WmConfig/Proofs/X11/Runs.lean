import WmConfig.Proofs.X11.Exchanges

/-! # Runs of a display

A display is set up, and then any steps are taken on it: colours are allocated, the modifier that
locks the keypad is asked for, sessions are loaded. Each step is a turn of the dialogue with the
server (`exists_turn`), and a run is turn after turn (`exists_turns`). Through all of them the
colours belong to the screen that was chosen at first (`runs_in_turns`). -/

namespace WmConfig

/-! ### Steps on a platform -/

namespace Platform

variable {σ : Type}

/-- A step on a platform. -/
inductive Step where
  | allocColor (spec : String)
  | numLockMask
  | load (s : Settings)

/-- What comes of a step. -/
inductive Outcome where
  | color (answer : Except Failure AllocatedColor)
  | mask (answer : Except Failure UInt16)
  | session (result : Except LoadError Session) (warnings : List Warning)

/-- Takes a step. -/
def take (p : Platform σ) : Step → σ → Outcome × σ
  | .allocColor spec, state => (.color (p.allocColor spec state).1, (p.allocColor spec state).2)
  | .numLockMask, state => (.mask (p.numLockMask state).1, (p.numLockMask state).2)
  | .load s, state =>
    let (result, prog) := (Loading.resolve p s).start state
    (.session result prog.warnings, prog.platform)

/-- Takes steps one after the other. -/
def run (p : Platform σ) : List Step → σ → List Outcome × σ
  | [], state => ([], state)
  | step :: steps, state =>
    let (outcome, state) := p.take step state
    let (outcomes, state) := p.run steps state
    (outcome :: outcomes, state)

end Platform

namespace X11.Display

open Platform (Step Outcome)

variable {σ : Type} {server : Server σ} {d : Display}
  {openFont : FontDescriptor → Except Failure LoadedFont} {screen defaultScreen : ℕ}

/-! ### Setting up -/

/-- The screen that fonts and colours belong to. -/
def physical (screen defaultScreen : ℕ) (joined : Bool) : ℕ :=
  if joined then defaultScreen else screen

/-- Setting up a display. -/
inductive Connecting (setup : Setup) (screen defaultScreen : ℕ) :
    List Exchange → Except Failure Display → Prop
  | notTold {es : List Exchange} {failure : Failure} (joining : Joining es (.error failure)) :
      Connecting setup screen defaultScreen es (.error failure)
  | noScreen {es : List Exchange} {joined : Bool} (joining : Joining es (.ok joined))
      (missing : setup.colormaps.length ≤ physical screen defaultScreen joined) :
      Connecting setup screen defaultScreen es (.error (.because
        ("Screen " ++ toString (physical screen defaultScreen joined) ++ " does not exist")))
  | connected {es : List Exchange} {joined : Bool} {colormap : UInt32}
      (joining : Joining es (.ok joined))
      (found : setup.colormaps[physical screen defaultScreen joined]? = some colormap) :
      Connecting setup screen defaultScreen es
        (.ok ⟨screen, physical screen defaultScreen joined, colormap⟩)

theorem adds_connect (h : server.TellsExtensions) (screen defaultScreen : ℕ) :
    Dialogue.Adds (Connecting server.setup screen defaultScreen)
      (connect server.recorded screen defaultScreen) (connect server screen defaultScreen) := by
  refine (adds_screensJoined h).bind (fun _ _ => .notTold) fun es joined hjoining => ?_
  have hsetup : server.recorded.setup = server.setup := rfl
  rw [hsetup]
  cases hfound : server.setup.colormaps[physical screen defaultScreen joined]? with
  | some colormap =>
    unfold physical at hfound
    simp only [hfound]
    exact .pure (by simpa using .connected hjoining hfound)
  | none =>
    have hmissing := List.getElem?_eq_none_iff.mp hfound
    unfold physical at hfound
    simp only [hfound]
    exact .throw (by simpa using .noScreen hjoining hmissing)

theorem Joining.error_iff {es : List Exchange} {joined : Except Failure Bool}
    (h : Joining es joined) :
    (∃ failure, joined = .error failure) ↔ ⟨.xineramaIsActive, none⟩ ∈ es := by
  cases h <;> simp

theorem Connecting.exists_joining {setup : Setup} {es : List Exchange}
    {result : Except Failure Display} (h : Connecting setup screen defaultScreen es result) :
    ∃ joined, Joining es joined ∧
      ((∃ failure, result = .error failure) ↔ ⟨.xineramaIsActive, none⟩ ∈ es ∨
        ∃ j, joined = .ok j ∧ setup.colormaps.length ≤ physical screen defaultScreen j) ∧
      ∀ d, result = .ok d → d.screen = screen ∧
        (∃ j, joined = .ok j ∧ d.physScreen = physical screen defaultScreen j) ∧
        setup.colormaps[d.physScreen]? = some d.colormap := by
  cases h with
  | notTold joining =>
    refine ⟨_, joining, iff_of_true ⟨_, rfl⟩ (Or.inl (joining.error_iff.mp ⟨_, rfl⟩)), ?_⟩
    rintro d ⟨⟩
  | noScreen joining missing =>
    refine ⟨_, joining, iff_of_true ⟨_, rfl⟩ (Or.inr ⟨_, rfl, missing⟩), ?_⟩
    rintro d ⟨⟩
  | connected joining found =>
    refine ⟨_, joining, iff_of_false (by simp) ?_, ?_⟩
    · rintro (hrefused | ⟨j, hj, hmissing⟩)
      · simpa using joining.error_iff.mpr hrefused
      · cases hj
        rw [List.getElem?_eq_none hmissing] at found
        cases found
    · rintro d ⟨⟩
      exact ⟨rfl, ⟨_, rfl, rfl⟩, found⟩

/-! ### Turns -/

/-- A step, what comes of it and what is said. -/
inductive Turn (d : Display) (setup : Setup)
    (openFont : FontDescriptor → Except Failure LoadedFont) :
    Step → Outcome → List Exchange → Prop
  | allocColor {spec : String} {answer : Except Failure AllocatedColor} {e : Exchange}
      (exchange : d.Allocation spec e answer) :
      Turn d setup openFont (.allocColor spec) (.color answer) [e]
  | numLockMask {answer : Except Failure UInt16} {es : List Exchange}
      (detection : Detection setup es answer) :
      Turn d setup openFont .numLockMask (.mask answer) es
  | load {s : Settings} {result : Except LoadError Session} {ws : List Warning}
      {es : List Exchange} (conversation : d.Conversation setup openFont s es result ws) :
      Turn d setup openFont (.load s) (.session result ws) es

/-- Turn after turn. -/
inductive Turns (d : Display) (setup : Setup)
    (openFont : FontDescriptor → Except Failure LoadedFont) :
    List Step → List Outcome → List Exchange → Prop
  | done : Turns d setup openFont [] [] []
  | turn {step : Step} {steps : List Step} {outcome : Outcome} {outcomes : List Outcome}
      {es fs : List Exchange} (first : d.Turn setup openFont step outcome es)
      (rest : Turns d setup openFont steps outcomes fs) :
      Turns d setup openFont (step :: steps) (outcome :: outcomes) (es ++ fs)

section Turns
variable {setup : Setup} {step : Step} {steps : List Step} {outcome : Outcome}
  {outcomes : List Outcome} {es : List Exchange} {colormap : UInt32} {r : Session}
  {ws : List Warning}

theorem Conversation.colormap_eq {s : Settings} {result : Except LoadError Session}
    (h : d.Conversation setup openFont s es result ws) :
    ∀ e ∈ es, e.request.colormap? = some colormap → colormap = d.colormap := by
  have hcolor : ∀ {specs es cs refusal}, d.Allocations specs es cs refusal → ∀ e ∈ es,
      e.request.colormap? = some colormap → colormap = d.colormap :=
    fun hcolors e he hmap => Option.some.inj (hmap.symm.trans (hcolors.colormap_eq e he))
  cases h with
  | noFont => exact fun _ he => absurd he List.not_mem_nil
  | refused _ colors | incomplete _ colors _ => exact hcolor colors
  | loaded _ colors _ _ _ numLock _ =>
    intro e he hmap
    rcases List.mem_append.mp he with he | he
    · exact hcolor colors e he hmap
    · cases hmap.symm.trans (numLock.colormap_eq e he)

/-- Colours are taken from the colour map of the display alone. -/
theorem Turn.colormap_eq (h : d.Turn setup openFont step outcome es) :
    ∀ e ∈ es, e.request.colormap? = some colormap → colormap = d.colormap := by
  cases h with
  | allocColor exchange =>
    intro e he hmap
    rw [List.mem_singleton.mp he, exchange.colormap_eq] at hmap
    exact (Option.some.inj hmap).symm
  | numLockMask detection =>
    intro e he hmap
    cases hmap.symm.trans (detection.colormap_eq e he)
  | load conversation => exact conversation.colormap_eq

/-- Sessions have the screens of the display. -/
theorem Turn.screen_eq (h : d.Turn setup openFont step (.session (.ok r) ws) es) :
    r.screen = d.screen ∧ r.physScreen = d.physScreen := by
  cases h with
  | load conversation =>
    cases conversation with
    | loaded _ _ _ screen physScreen _ _ => exact ⟨screen, physScreen⟩

theorem Turns.colormap_eq (h : d.Turns setup openFont steps outcomes es) :
    ∀ e ∈ es, e.request.colormap? = some colormap → colormap = d.colormap := by
  induction h with
  | done => exact fun _ he => absurd he List.not_mem_nil
  | turn first _ ih => exact List.forall_mem_append.mpr ⟨first.colormap_eq, ih⟩

theorem Turns.screen_eq (h : d.Turns setup openFont steps outcomes es)
    (hr : .session (.ok r) ws ∈ outcomes) :
    r.screen = d.screen ∧ r.physScreen = d.physScreen := by
  induction h with
  | done => cases hr
  | turn first _ ih =>
    rcases List.mem_cons.mp hr with rfl | hr
    · exact first.screen_eq
    · exact ih hr

end Turns

variable (server d openFont) in
/-- **Every step is a turn.** -/
theorem exists_turn (step : Step) (t : Transcript σ) :
    ∃ outcome state es,
      (d.platform server.recorded openFont).take step t = (outcome, ⟨state, t.exchanges ++ es⟩) ∧
      (d.platform server openFont).take step t.state = (outcome, state) ∧
      d.Turn server.setup openFont step outcome es := by
  cases step with
  | allocColor spec =>
    obtain ⟨_, ⟨e, rfl, he⟩, hrecorded⟩ := adds_allocColor server d spec t
    refine ⟨_, _, [e], ?_, rfl, .allocColor he⟩
    exact congrArg (fun held : _ × _ => (Outcome.color held.1, held.2)) hrecorded
  | numLockMask =>
    obtain ⟨es, hes, hrecorded⟩ := adds_numLockMask server t
    refine ⟨_, _, es, ?_, rfl, .numLockMask hes⟩
    exact congrArg (fun held : _ × _ => (Outcome.mask held.1, held.2)) hrecorded
  | load s =>
    obtain ⟨result, t', ws, hloads⟩ :=
      Loading.exists_loads (d.platform server.recorded openFont) s t
    obtain ⟨es, hes, hexchanges, hplain⟩ := exists_conversation hloads
    refine ⟨.session result ws, t'.state, es, ?_, ?_, .load hes⟩
    · rw [Platform.take, hloads.start, ← hexchanges]
    · rw [Platform.take, hplain.start]

variable (server d openFont) in
/-- **Every run is turn after turn.** -/
theorem exists_turns (steps : List Step) (t : Transcript σ) :
    ∃ outcomes state es,
      (d.platform server.recorded openFont).run steps t =
        (outcomes, ⟨state, t.exchanges ++ es⟩) ∧
      (d.platform server openFont).run steps t.state = (outcomes, state) ∧
      d.Turns server.setup openFont steps outcomes es := by
  induction steps generalizing t with
  | nil => exact ⟨[], t.state, [], by rw [List.append_nil]; rfl, rfl, .done⟩
  | cons step steps ih =>
    obtain ⟨outcome, state, es, hrecorded, hplain, hturn⟩ := exists_turn server d openFont step t
    obtain ⟨outcomes, state', fs, hrecorded', hplain', hturns⟩ := ih ⟨state, t.exchanges ++ es⟩
    refine ⟨outcome :: outcomes, state', es ++ fs, ?_, ?_, .turn hturn hturns⟩
    · rw [Platform.run, hrecorded]
      simp only [hrecorded', List.append_assoc]
    · rw [Platform.run, hplain]
      simp only [hplain']

/-- **Runs of a display.** Setting up a display fails iff an error answers whether the screens are
joined, or there is no such screen, and says nothing about colours. From then on every run is a
dialogue turn by turn; its colours are taken from the colour map of the screen chosen, and its
sessions are for the screens chosen. The runs are the same without the record. -/
theorem runs_in_turns (server : Server σ) (htells : server.TellsExtensions)
    (openFont : FontDescriptor → Except Failure LoadedFont) (screen defaultScreen : ℕ)
    (state : σ) :
    ∃ result state' es joined,
      (connect server.recorded screen defaultScreen).hold ⟨state, []⟩ = (result, ⟨state', es⟩) ∧
      (connect server screen defaultScreen).hold state = (result, state') ∧
      Joining es joined ∧ (∀ e ∈ es, e.request.colormap? = none) ∧
      ((∃ failure, result = .error failure) ↔ ⟨.xineramaIsActive, none⟩ ∈ es ∨
        ∃ j, joined = .ok j ∧
          server.setup.colormaps.length ≤ physical screen defaultScreen j) ∧
      ∀ d : Display, result = .ok d → d.screen = screen ∧
        (∃ j, joined = .ok j ∧ d.physScreen = physical screen defaultScreen j) ∧
        ∀ steps : List Step, ∃ outcomes state'' fs,
          (d.platform server.recorded openFont).run steps ⟨state', es⟩ =
            (outcomes, ⟨state'', es ++ fs⟩) ∧
          (d.platform server openFont).run steps state' = (outcomes, state'') ∧
          d.Turns server.setup openFont steps outcomes fs ∧
          (∀ e ∈ fs, ∀ colormap, e.request.colormap? = some colormap →
            server.setup.colormaps[d.physScreen]? = some colormap) ∧
          ∀ r ws, .session (.ok r) ws ∈ outcomes →
            r.screen = screen ∧ r.physScreen = d.physScreen := by
  obtain ⟨es, hes, hrecorded⟩ := adds_connect htells screen defaultScreen ⟨state, []⟩
  obtain ⟨joined, hjoining, hfails, hconnected⟩ := hes.exists_joining
  refine ⟨_, _, es, joined, hrecorded, rfl, hjoining, hjoining.colormap_eq, hfails,
    fun d hd => ?_⟩
  obtain ⟨hscreen, hphys, hcolormap⟩ := hconnected d hd
  refine ⟨hscreen, hphys, fun steps => ?_⟩
  obtain ⟨outcomes, state'', fs, hrun, hplain, hturns⟩ :=
    exists_turns server d openFont steps ⟨((connect server screen defaultScreen).hold state).2, es⟩
  refine ⟨outcomes, state'', fs, hrun, hplain, hturns, fun e he colormap hmap => ?_,
    fun r ws hr => ?_⟩
  · rw [hturns.colormap_eq e he hmap, hcolormap]
  · rw [← hscreen]
    exact hturns.screen_eq hr

/-- On joined screens a named colour belongs to the default screen, and is the one that is shown. -/
theorem runs_in_turns_joined :
    let simulation : Simulation :=
      { setup := ⟨[7, 9], 8, 255⟩
        xinerama := .state 1
        named := [("teal", ⟨0, 0x8080, 0x8080⟩, ⟨0, 0x8000, 0x8000⟩)] }
    ∃ fs, Turns ⟨0, 1, 9⟩ simulation.setup (fun font => .ok font.loaded) [.allocColor "teal"]
        [.color (.ok ⟨1, ⟨0, 0x8000, 0x8000⟩⟩)] fs ∧
      ∀ e ∈ fs, ∀ colormap, e.request.colormap? = some colormap →
        simulation.setup.colormaps[1]? = some colormap := by
  intro simulation
  obtain ⟨result, state', es, joined, -, hplain, -, -, -, hconnected⟩ :=
    runs_in_turns simulation.server simulation.tellsExtensions (fun font => .ok font.loaded) 0 1 {}
  obtain ⟨rfl, rfl⟩ := Prod.mk.inj hplain
  obtain ⟨-, -, hruns⟩ := hconnected ⟨0, 1, 9⟩ rfl
  obtain ⟨outcomes, state'', fs, -, hrun, hturns, hcolormap, -⟩ := hruns [.allocColor "teal"]
  obtain ⟨rfl, -⟩ := Prod.mk.inj hrun
  exact ⟨fs, hturns, hcolormap⟩

end X11.Display

end WmConfig
