import WmConfig.Proofs.X11.Exchanges

/-! # The modifier that locks the keypad

A display asks for the keysyms of all keycodes and then for the modifiers, and takes the last
modifier that the first key for the keypad lock acts as. A session that is loaded does without if
either request is answered by an error (`num_lock_detected`). -/

namespace WmConfig.X11

/-- The count of the keycodes does not overflow. -/
theorem Setup.toNat_keycodeCount {setup : Setup} (hleast : 8 ≤ setup.minKeycode.toNat)
    (hle : setup.minKeycode.toNat ≤ setup.maxKeycode.toNat) :
    setup.keycodeCount.toNat = setup.maxKeycode.toNat - setup.minKeycode.toNat + 1 := by
  have hlt := setup.maxKeycode.toNat_lt
  unfold keycodeCount
  rw [UInt8.toNat_add, UInt8.toNat_sub_of_le _ _ (UInt8.le_iff_toNat_le.mpr hle)]
  exact Nat.mod_eq_of_lt (by rw [UInt8.toNat_one]; omega)

namespace Display

open Loading (HasDefaultLayout)

variable {σ : Type} {d : Display} {s : Settings}

/-- The conversation of a load is about colours first, and about the keyboard only once nothing is
missing: from then on there is a session whatever the server answers. -/
theorem Conversation.exists_keyboard {setup : Setup}
    {openFont : FontDescriptor → Except Failure LoadedFont} {es : List Exchange}
    {result : Except LoadError Session} {ws : List Warning}
    (h : d.Conversation setup openFont s es result ws) :
    ∃ colors keyboard, es = colors ++ keyboard ∧
      (∀ e ∈ colors, e.request.colormap? = some d.colormap) ∧
      ((∃ r, result = .ok r) ↔ (∃ font, openFont (.parse s.general.font) = .ok font) ∧
        (∀ e ∈ colors, e.reply?.isSome = true) ∧ HasDefaultLayout s ∧ s.tags ≠ []) ∧
      (keyboard = [] ∧ (∃ e, result = .error e) ∨ ∃ answer r, Detection setup keyboard answer ∧
        result = .ok r ∧ TakesAnswer answer r ws) := by
  cases h with
  | noFont font =>
    refine ⟨[], [], rfl, by simp, iff_of_false (by simp) ?_, Or.inl ⟨rfl, _, rfl⟩⟩
    rintro ⟨⟨_, hfont⟩, -⟩
    cases font.symm.trans hfont
  | refused opened colors =>
    refine ⟨es, [], (List.append_nil es).symm, colors.colormap_eq, iff_of_false (by simp) ?_,
      Or.inl ⟨rfl, _, rfl⟩⟩
    rintro ⟨-, hgranted, -⟩
    cases colors.isSome_iff.mp hgranted
  | incomplete opened colors missing =>
    refine ⟨es, [], (List.append_nil es).symm, colors.colormap_eq, iff_of_false (by simp) ?_,
      Or.inl ⟨rfl, _, rfl⟩⟩
    rintro ⟨-, -, hlayout, htags⟩
    cases missing with
    | layout layout => exact layout hlayout
    | tags tags => exact htags tags
  | loaded opened colors complete _ _ numLock takes =>
    exact ⟨_, _, rfl, colors.colormap_eq,
      iff_of_true ⟨_, rfl⟩ ⟨⟨_, opened⟩, colors.isSome_iff.mpr rfl, complete⟩,
      Or.inr ⟨_, _, numLock, rfl, takes⟩⟩

/-- **The modifier that locks the keypad is found.** All keycodes are asked for, then the
modifiers, and the bit is that of the last modifier that the first key with the keysym acts as. A
load asks only once nothing is missing any more, and then gives a session in any case; if either
request is answered by an error, the session has no such modifier and there is one warning about
it. -/
theorem num_lock_detected (server : Server σ) (hleast : 8 ≤ server.setup.minKeycode.toNat)
    (hle : server.setup.minKeycode.toNat ≤ server.setup.maxKeycode.toNat) (t : Transcript σ) :
    (server.setup.keycodeCount.toNat =
      server.setup.maxKeycode.toNat - server.setup.minKeycode.toNat + 1) ∧
    (∃ answer state es,
      (numLockMask server.recorded).hold t = (answer, ⟨state, t.exchanges ++ es⟩) ∧
      (numLockMask server).hold t.state = (answer, state) ∧
      Detection server.setup es answer) ∧
    ∀ (d : Display) (openFont : FontDescriptor → Except Failure LoadedFont) (s : Settings),
      ∃ result state colors keyboard ws,
        (Loading.resolve (d.platform server.recorded openFont) s).start t =
          (result, ⟨⟨state, t.exchanges ++ (colors ++ keyboard)⟩, ws⟩) ∧
        (Loading.resolve (d.platform server openFont) s).start t.state = (result, ⟨state, ws⟩) ∧
        (∀ e ∈ colors, e.request.colormap? = some d.colormap) ∧
        ((∃ r, result = .ok r) ↔ (∃ font, openFont (.parse s.general.font) = .ok font) ∧
          (∀ e ∈ colors, e.reply?.isSome = true) ∧ HasDefaultLayout s ∧ s.tags ≠ []) ∧
        (keyboard = [] ∧ (∃ e, result = .error e) ∨ ∃ answer r,
          Detection server.setup keyboard answer ∧ result = .ok r ∧ TakesAnswer answer r ws) := by
  refine ⟨Setup.toNat_keycodeCount hleast hle, ?_, fun d openFont s => ?_⟩
  · obtain ⟨es, hes, hrecorded⟩ := adds_numLockMask server t
    exact ⟨_, _, es, hrecorded, rfl, hes⟩
  · obtain ⟨result, t', ws, hloads⟩ :=
      Loading.exists_loads (d.platform server.recorded openFont) s t
    obtain ⟨es, hes, hexchanges, hplain⟩ := exists_conversation hloads
    obtain ⟨colors, keyboard, rfl, hcolors, hloaded, hkeyboard⟩ := hes.exists_keyboard
    refine ⟨result, t'.state, colors, keyboard, ws, ?_, hplain.start, hcolors, hloaded,
      hkeyboard⟩
    rw [hloads.start, ← hexchanges]

/-- The second keycode locks the keypad and acts as the fifth modifier. -/
theorem num_lock_detected_second :
    let simulation : Simulation :=
      { setup := ⟨[0], 8, 255⟩
        keyboard := some ⟨1, [0, 0xff7f]⟩
        modifiers := some [0, 0, 0, 0, 9, 0, 0, 0] }
    ∃ t, (numLockMask simulation.server.recorded).hold ⟨{}, []⟩ = (.ok 16, t) ∧
      Detection simulation.setup t.exchanges (.ok 16) := by
  intro simulation
  obtain ⟨-, ⟨answer, state, es, hrecorded, -, hes⟩, -⟩ :=
    num_lock_detected simulation.server (by decide) (by decide) ⟨{}, []⟩
  have hanswer : ((numLockMask simulation.server.recorded).hold ⟨{}, []⟩).1 = .ok 16 := by rfl
  rw [hrecorded] at hanswer
  obtain rfl : answer = .ok 16 := hanswer
  exact ⟨_, hrecorded, hes⟩

end Display

end WmConfig.X11
