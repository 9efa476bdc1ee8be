import WmConfig.Proofs.Keyboard
import WmConfig.Proofs.Session.Acquisition
import WmConfig.Proofs.X11.Dialogues
import WmConfig.X11.Simulated

/-! # The exchanges of a display

What a display says to a server and what it makes of the replies: to find out whether the screens
are joined (`Joining`), to allocate a colour (`Allocation`), to find the modifier that locks the
keypad (`Detection`), and in a whole load (`Conversation`). A load allocates its colours one after
the other and asks for the modifier when nothing is missing. -/

namespace WmConfig.X11

open Loading (Allocates HasDefaultLayout Loads Missing numLockOf)

/-- The server tells which extensions it has; the protocol has no error for this. -/
def Server.TellsExtensions {σ : Type} (server : Server σ) : Prop :=
  ∀ (name : String) (state : σ), (server.reply? (.queryExtension name) state).1 ≠ none

theorem Simulation.tellsExtensions (s : Simulation) : s.server.TellsExtensions :=
  fun _ _ => Option.some_ne_none _

/-- The colour map that a request takes a colour from. -/
def Request.colormap? : Request → Option UInt32
  | .allocColor colormap _ => some colormap
  | .allocNamedColor colormap _ => some colormap
  | _ => none

/-- How many keycodes there are. -/
def Setup.keycodeCount (setup : Setup) : UInt8 := setup.maxKeycode - setup.minKeycode + 1

namespace Display

variable {σ : Type}

/-! ### Joined screens -/

/-- Finding out whether the screens are joined. -/
inductive Joining : List Exchange → Except Failure Bool → Prop
  | absent : Joining [⟨.queryExtension xinerama, some false⟩] (.ok false)
  | refused : Joining [⟨.queryExtension xinerama, some true⟩, ⟨.xineramaIsActive, none⟩]
      (.error (.because "Failed to get reply for Xinerama IsActive"))
  | told (n : UInt32) :
      Joining [⟨.queryExtension xinerama, some true⟩, ⟨.xineramaIsActive, some n⟩] (.ok (n != 0))

theorem Joining.colormap_eq {es : List Exchange} {joined : Except Failure Bool}
    (h : Joining es joined) : ∀ e ∈ es, e.request.colormap? = none := by
  cases h <;> simp [Request.colormap?]

theorem adds_screensJoined {server : Server σ} (h : server.TellsExtensions) :
    Dialogue.Adds Joining (screensJoined server.recorded) (screensJoined server) := by
  refine .ask_bind (fun state hnone => absurd hnone (h xinerama state)) fun isPresent => ?_
  cases (isPresent : Bool) with
  | false => exact .pure .absent
  | true => exact .ask_bind (fun _ _ => .refused) fun n => .pure (.told n)

/-! ### Colours -/

/-- Allocating a colour: one exchange, and what is made of the reply. -/
inductive Allocation (d : Display) (spec : String) :
    Exchange → Except Failure AllocatedColor → Prop
  | shown {rgb : Rgb} (parsed : Rgb.parse? spec = some rgb) (c : AllocatedColor) :
      Allocation d spec ⟨.allocColor d.colormap rgb, some c⟩ (.ok c)
  | refused {rgb : Rgb} (parsed : Rgb.parse? spec = some rgb) :
      Allocation d spec ⟨.allocColor d.colormap rgb, none⟩
        (.error (.because ("Server refused to allocate color " ++ spec)))
  | named (unparsed : Rgb.parse? spec = none) (reply : NamedColor) :
      Allocation d spec ⟨.allocNamedColor d.colormap spec, some reply⟩
        (.ok ⟨reply.pixel, reply.visual⟩)
  | unknown (unparsed : Rgb.parse? spec = none) :
      Allocation d spec ⟨.allocNamedColor d.colormap spec, none⟩
        (.error (.because ("Unknown color name " ++ spec)))

theorem Allocation.colormap_eq {d : Display} {spec : String} {e : Exchange}
    {answer : Except Failure AllocatedColor} (h : d.Allocation spec e answer) :
    e.request.colormap? = some d.colormap := by
  cases h <;> rfl

theorem adds_allocColor (server : Server σ) (d : Display) (spec : String) :
    Dialogue.Adds (fun es answer => ∃ e, es = [e] ∧ d.Allocation spec e answer)
      (d.allocColor server.recorded spec) (d.allocColor server spec) := by
  unfold allocColor
  cases hparse : Rgb.parse? spec with
  | some rgb =>
    exact Dialogue.Adds.ask (r := .allocColor d.colormap rgb) (fun _ _ => ⟨_, rfl, .refused hparse⟩)
      fun c => ⟨_, rfl, .shown hparse c⟩
  | none =>
    exact .ask_bind (fun _ _ => ⟨_, rfl, .unknown hparse⟩) fun reply =>
      .pure ⟨_, rfl, .named hparse reply⟩

/-! ### The modifier that locks the keypad -/

/-- Finding the modifier that locks the keypad. -/
inductive Detection (setup : Setup) : List Exchange → Except Failure UInt16 → Prop
  | noKeyboard :
      Detection setup [⟨.getKeyboardMapping setup.minKeycode setup.keycodeCount, none⟩]
        (.error (.because "Failed to get reply for GetKeyboardMapping"))
  | noModifiers (keyboard : KeyboardMapping) :
      Detection setup
        [⟨.getKeyboardMapping setup.minKeycode setup.keycodeCount, some keyboard⟩,
          ⟨.getModifierMapping, none⟩]
        (.error (.because "Failed to get reply for GetModifierMapping"))
  | told (keyboard : KeyboardMapping) (keycodes : List UInt8) {bit : UInt16}
      (has : Keyboard.HasBit keyboard.keysyms keyboard.width.toNat setup.minKeycode
        Keyboard.numLock keycodes (keycodes.length / Keyboard.modifierCount) bit) :
      Detection setup
        [⟨.getKeyboardMapping setup.minKeycode setup.keycodeCount, some keyboard⟩,
          ⟨.getModifierMapping, some keycodes⟩] (.ok bit)

theorem Detection.colormap_eq {setup : Setup} {es : List Exchange}
    {answer : Except Failure UInt16} (h : Detection setup es answer) :
    ∀ e ∈ es, e.request.colormap? = none := by
  cases h <;> simp [Request.colormap?]

theorem adds_numLockMask (server : Server σ) :
    Dialogue.Adds (Detection server.setup) (numLockMask server.recorded) (numLockMask server) := by
  refine .ask_bind (fun _ _ => .noKeyboard) fun keyboard => ?_
  refine .ask_bind (fun _ _ => .noModifiers keyboard) fun keycodes => .pure ?_
  exact .told keyboard keycodes (Keyboard.hasBit_modifierOf ..)

/-! ### Loads -/

/-- Allocating colours one after the other, up to the first one that is refused. -/
inductive Allocations (d : Display) :
    List String → List Exchange → List AllocatedColor → Option (String × Failure) → Prop
  | done : Allocations d [] [] [] none
  | refused {spec : String} {specs : List String} {e : Exchange} {failure : Failure}
      (exchange : d.Allocation spec e (.error failure)) :
      Allocations d (spec :: specs) [e] [] (some (spec, failure))
  | granted {spec : String} {specs : List String} {e : Exchange} {es : List Exchange}
      {c : AllocatedColor} {cs : List AllocatedColor} {refusal : Option (String × Failure)}
      (exchange : d.Allocation spec e (.ok c)) (rest : Allocations d specs es cs refusal) :
      Allocations d (spec :: specs) (e :: es) (c :: cs) refusal

theorem Allocations.colormap_eq {d : Display} {specs : List String} {es : List Exchange}
    {cs : List AllocatedColor} {refusal : Option (String × Failure)}
    (h : d.Allocations specs es cs refusal) :
    ∀ e ∈ es, e.request.colormap? = some d.colormap := by
  induction h with
  | done => exact fun _ he => absurd he List.not_mem_nil
  | refused exchange => simpa using exchange.colormap_eq
  | granted exchange _ ih => exact List.forall_mem_cons.mpr ⟨exchange.colormap_eq, ih⟩

/-- Whether every colour asked for is granted. -/
theorem Allocations.isSome_iff {d : Display} {specs : List String} {es : List Exchange}
    {cs : List AllocatedColor} {refusal : Option (String × Failure)}
    (h : d.Allocations specs es cs refusal) :
    (∀ e ∈ es, e.reply?.isSome = true) ↔ refusal = none := by
  induction h with
  | done => simp
  | refused exchange =>
    refine iff_of_false (fun hall => ?_) (Option.some_ne_none _)
    have hsome := hall _ (List.mem_singleton_self _)
    cases exchange <;> cases hsome
  | granted exchange _ ih =>
    rw [List.forall_mem_cons, ih]
    refine and_iff_right ?_
    cases exchange <;> rfl

/-- How a session takes the answer about the modifier that locks the keypad. -/
structure TakesAnswer (answer : Except Failure UInt16) (r : Session) (ws : List Warning) :
    Prop where
  told : ∀ mask, answer = .ok mask → r.numLockMask = mask ∧ .numLockUnavailable ∉ ws
  untold : ∀ failure, answer = .error failure →
    r.numLockMask = 0 ∧ ws.count .numLockUnavailable = 1

/-- What a load says, what comes of it and what it reports. -/
inductive Conversation (d : Display) (setup : Setup)
    (openFont : FontDescriptor → Except Failure LoadedFont) (s : Settings) :
    List Exchange → Except LoadError Session → List Warning → Prop
  | noFont {failure : Failure} (font : openFont (.parse s.general.font) = .error failure) :
      Conversation d setup openFont s [] (.error (.font s.general.font failure.reason)) []
  | refused {font : LoadedFont} {es : List Exchange} {cs : List AllocatedColor} {spec : String}
      {failure : Failure} (opened : openFont (.parse s.general.font) = .ok font)
      (colors : d.Allocations s.colors.toList es cs (some (spec, failure))) :
      Conversation d setup openFont s es (.error (.color spec failure.reason)) []
  | incomplete {font : LoadedFont} {es : List Exchange} {cs : List AllocatedColor}
      {e : LoadError} {ws : List Warning}
      (opened : openFont (.parse s.general.font) = .ok font)
      (colors : d.Allocations s.colors.toList es cs none) (missing : Missing s e) :
      Conversation d setup openFont s es (.error e) ws
  | loaded {font : LoadedFont} {es keyboard : List Exchange} {r : Session}
      {answer : Except Failure UInt16} {ws : List Warning}
      (opened : openFont (.parse s.general.font) = .ok font)
      (colors : d.Allocations s.colors.toList es r.colors.toList none)
      (complete : HasDefaultLayout s ∧ s.tags ≠ [])
      (screen : r.screen = d.screen) (physScreen : r.physScreen = d.physScreen)
      (numLock : Detection setup keyboard answer) (takes : TakesAnswer answer r ws) :
      Conversation d setup openFont s (es ++ keyboard) (.ok r) ws

section Loads
variable {server : Server σ} {d : Display}
  {openFont : FontDescriptor → Except Failure LoadedFont} {t t' : Transcript σ}

theorem exists_allocations {specs : List String} {cs : List AllocatedColor}
    {refusal : Option (String × Failure)}
    (h : Allocates (d.platform server.recorded openFont) t specs cs refusal t') :
    ∃ es, d.Allocations specs es cs refusal ∧ t'.exchanges = t.exchanges ++ es ∧
      Allocates (d.platform server openFont) t.state specs cs refusal t'.state := by
  -- Each allocation adds its own exchange, before those of the rest.
  induction h with
  | done => exact ⟨[], .done, by simp, .done⟩
  | refused answer =>
    obtain ⟨_, ⟨e, rfl, he⟩, hexchanges, hanswer⟩ :=
      (adds_allocColor server d _).exists_exchanges answer
    exact ⟨[e], .refused he, hexchanges, .refused hanswer⟩
  | granted answer rest ih =>
    obtain ⟨_, ⟨e, rfl, he⟩, hexchanges, hanswer⟩ :=
      (adds_allocColor server d _).exists_exchanges answer
    obtain ⟨es, hes, hrest, hallocates⟩ := ih
    refine ⟨e :: es, .granted he hes, ?_, .granted hanswer hallocates⟩
    rw [hrest, hexchanges, List.append_assoc]
    rfl

theorem takesAnswer_session (p : Platform σ) (s : Settings) (font : LoadedFont)
    (colors : Palette AllocatedColor) (answer : Except Failure UInt16) :
    TakesAnswer answer (Loading.session p s font colors (numLockOf answer).value)
      ((Session.Layout.ofEntries s.layouts.layout).warnings ++
        (Reported.map Session.Rule.ofSettings s.rules).warnings ++ (numLockOf answer).warnings ++
        (Reported.map Session.KeyBinding.ofSettings s.keys.key).warnings) := by
  refine ⟨fun mask hmask => ?_, fun failure hfailure => ?_⟩
  · rw [hmask, ← List.count_eq_zero, Loading.count_numLockUnavailable]
    exact ⟨rfl, rfl⟩
  · rw [hfailure, Loading.count_numLockUnavailable]
    exact ⟨rfl, rfl⟩

/-- **Every load holds such a conversation**, and recording it changes nothing. -/
theorem exists_conversation {s : Settings} {result : Except LoadError Session}
    {ws : List Warning} (h : Loads (d.platform server.recorded openFont) s t result t' ws) :
    ∃ es, d.Conversation server.setup openFont s es result ws ∧
      t'.exchanges = t.exchanges ++ es ∧
      Loads (d.platform server openFont) s t.state result t'.state ws := by
  cases h with
  | noFont font =>
    obtain ⟨hfont, rfl⟩ := Prod.mk.inj font
    exact ⟨[], .noFont hfont, by simp, .noFont (Prod.ext hfont rfl)⟩
  | refused opened colors =>
    obtain ⟨hfont, rfl⟩ := Prod.mk.inj opened
    obtain ⟨es, hes, hexchanges, hcolors⟩ := exists_allocations colors
    exact ⟨es, .refused hfont hes, hexchanges, .refused (Prod.ext hfont rfl) hcolors⟩
  | noDefaultLayout opened granted layout =>
    obtain ⟨hfont, rfl⟩ := Prod.mk.inj opened
    obtain ⟨es, hes, hexchanges, hcolors⟩ := exists_allocations granted
    exact ⟨es, .incomplete hfont hes (.layout layout), hexchanges,
      .noDefaultLayout (Prod.ext hfont rfl) hcolors layout⟩
  | noTags opened granted layout tags =>
    obtain ⟨hfont, rfl⟩ := Prod.mk.inj opened
    obtain ⟨es, hes, hexchanges, hcolors⟩ := exists_allocations granted
    exact ⟨es, .incomplete hfont hes (.tags tags), hexchanges,
      .noTags (Prod.ext hfont rfl) hcolors layout tags⟩
  | loaded opened granted layout tags numLock =>
    obtain ⟨hfont, rfl⟩ := Prod.mk.inj opened
    obtain ⟨es, hes, hexchanges, hcolors⟩ := exists_allocations granted
    obtain ⟨fs, hfs, hkeyboard, hnumLock⟩ :=
      (adds_numLockMask server).exists_exchanges numLock
    refine ⟨es ++ fs, .loaded hfont hes ⟨layout, tags⟩ rfl rfl hfs
      (takesAnswer_session _ _ _ _ _), ?_,
      .loaded (Prod.ext hfont rfl) hcolors layout tags hnumLock⟩
    rw [hkeyboard, hexchanges, List.append_assoc]

end Loads

end Display

end WmConfig.X11
