import Mathlib.Data.List.Forall2
import WmConfig.Proofs.Session.Acquisition

/-! # The key bindings of a session

Each entry has one binding, also if its command or its key is not known. The mask of a list of
modifiers is the set of those that are named (`testBit_modifierListMask`), so neither order nor
repetition counts, and names of no modifier do not count either. What is reported of an entry can be
told from its binding (`keys_bound_one_for_one`). -/

namespace WmConfig

/-! ### Masks as sets -/

theorem Modifier.ofName?_eq_some_iff {name : String} {m : Modifier} :
    Modifier.ofName? name = some m ↔ m.name = name := by
  constructor
  · intro h
    simpa using List.find?_some h
  · rintro rfl
    cases m <;> rfl

theorem testBit_modifierMask {name : String} {b : ℕ} :
    (modifierMask name).toNat.testBit b = true ↔ ∃ m : Modifier, m.name = name ∧ m.slot = b := by
  unfold modifierMask
  simp only [← Modifier.ofName?_eq_some_iff]
  cases Modifier.ofName? name with
  | none => simp
  | some m => simp [Modifier.toNat_bit, Nat.testBit_two_pow]

/-- A bit of the mask is set iff the list has the name of its modifier. -/
theorem testBit_modifierListMask {names : List String} {b : ℕ} :
    (modifierListMask names).toNat.testBit b = true ↔
      ∃ m : Modifier, m.name ∈ names ∧ m.slot = b := by
  have hfold : ∀ mask : UInt16,
      (names.foldl (fun mask name => mask ||| modifierMask name) mask).toNat.testBit b = true ↔
        mask.toNat.testBit b = true ∨ ∃ m : Modifier, m.name ∈ names ∧ m.slot = b := by
    induction names with
    | nil => simp
    | cons name names ih =>
      intro mask
      rw [List.foldl_cons, ih, UInt16.toNat_or, Nat.testBit_or, Bool.or_eq_true,
        testBit_modifierMask, or_assoc]
      simp only [List.mem_cons, or_and_right, exists_or]
  rw [modifierListMask, hfold]
  simp

/-- Lists that name the same modifiers have the same mask. -/
theorem modifierListMask_congr {xs ys : List String}
    (h : ∀ m : Modifier, m.name ∈ xs ↔ m.name ∈ ys) :
    modifierListMask xs = modifierListMask ys := by
  refine UInt16.toNat_inj.mp (Nat.eq_of_testBit_eq fun b => ?_)
  rw [Bool.eq_iff_iff, testBit_modifierListMask, testBit_modifierListMask]
  simp only [h]

theorem modifierListMask_append (xs ys : List String) :
    modifierListMask (xs ++ ys) = modifierListMask xs ||| modifierListMask ys := by
  refine UInt16.toNat_inj.mp (Nat.eq_of_testBit_eq fun b => ?_)
  rw [UInt16.toNat_or, Nat.testBit_or, Bool.eq_iff_iff, Bool.or_eq_true]
  simp only [testBit_modifierListMask, List.mem_append, or_and_right, exists_or]

/-- The names of the modifiers in the order of their bits. -/
def modifierNames : List String :=
  ["Shift", "Lock", "Control", "Mod1", "Mod2", "Mod3", "Mod4", "Mod5"]

theorem modifierNames_slot (m : Modifier) : modifierNames[m.slot]? = some m.name := by
  cases m <;> rfl

theorem exists_modifier {b : ℕ} {name : String} (h : modifierNames[b]? = some name) :
    ∃ m : Modifier, m.name = name ∧ m.slot = b := by
  obtain ⟨hb, rfl⟩ := List.getElem?_eq_some_iff.mp h
  match b, hb with
  | 0, _ => exact ⟨.shift, rfl, rfl⟩
  | 1, _ => exact ⟨.lock, rfl, rfl⟩
  | 2, _ => exact ⟨.control, rfl, rfl⟩
  | 3, _ => exact ⟨.mod1, rfl, rfl⟩
  | 4, _ => exact ⟨.mod2, rfl, rfl⟩
  | 5, _ => exact ⟨.mod3, rfl, rfl⟩
  | 6, _ => exact ⟨.mod4, rfl, rfl⟩
  | 7, _ => exact ⟨.mod5, rfl, rfl⟩

/-- The names are those of the modifiers, each at its bit. -/
theorem exists_modifier_iff {b : ℕ} {P : String → Prop} :
    (∃ m : Modifier, P m.name ∧ m.slot = b) ↔ ∃ name, modifierNames[b]? = some name ∧ P name := by
  constructor
  · rintro ⟨m, hm, rfl⟩
    exact ⟨m.name, modifierNames_slot m, hm⟩
  · rintro ⟨name, hname, hP⟩
    obtain ⟨m, rfl, hslot⟩ := exists_modifier hname
    exact ⟨m, hP, hslot⟩

/-- The mask of a list as the set of the modifiers that it names. -/
structure MaskIsSet : Prop where
  perm : ∀ xs ys : List String, xs.Perm ys → modifierListMask xs = modifierListMask ys
  repeated : ∀ (xs ys : List String) (name : String), name ∈ xs ++ ys →
    modifierListMask (xs ++ name :: ys) = modifierListMask (xs ++ ys)
  unknown : ∀ (xs ys : List String) (name : String), name ∉ modifierNames →
    modifierListMask (xs ++ name :: ys) = modifierListMask (xs ++ ys)
  none : ∀ xs ys : List String,
    modifierListMask (xs ++ "None" :: ys) = modifierListMask (xs ++ ys)
  union : ∀ xs ys : List String,
    modifierListMask (xs ++ ys) = modifierListMask xs ||| modifierListMask ys

theorem modifierListMask_unknown {name : String} (h : name ∉ modifierNames) (xs ys : List String) :
    modifierListMask (xs ++ name :: ys) = modifierListMask (xs ++ ys) := by
  refine modifierListMask_congr fun m => ?_
  rw [List.perm_middle.mem_iff, List.mem_cons]
  refine or_iff_right fun hm => h ?_
  exact List.mem_of_getElem? (hm ▸ modifierNames_slot m)

theorem maskIsSet : MaskIsSet where
  perm xs ys h := modifierListMask_congr fun m => h.mem_iff
  repeated xs ys name h := modifierListMask_congr fun m => by
    rw [List.perm_middle.mem_iff, List.mem_cons]
    exact or_iff_right_of_imp fun hm => hm ▸ h
  unknown xs ys _ h := modifierListMask_unknown h xs ys
  none := modifierListMask_unknown (by decide)
  union := modifierListMask_append

/-! ### Commands -/

theorem Command.ofName?_eq_some_iff {name : String} {c : Command} :
    Command.ofName? name = some c ↔ c.name = name := by
  constructor
  · intro h
    simpa using List.find?_some h
  · rintro rfl
    cases c <;> rfl

/-- No two commands have the same name. -/
theorem Command.name_injective : Function.Injective Command.name := by
  intro c c' h
  exact Option.some.inj
    ((Command.ofName?_eq_some_iff.mpr rfl).symm.trans (Command.ofName?_eq_some_iff.mpr h.symm))

namespace Session.KeyBinding

/-! ### The binding of an entry -/

theorem value_ofSettings (entry : Settings.Key) :
    (ofSettings entry).value =
      { modifiers := modifierListMask entry.modkey
        keysym := Keysym.ofName entry.key
        command := Command.ofName? entry.command
        arg := entry.arg } := rfl

/-- **The binding is that of the entry.** Bit `b` of its modifiers stands for the modifier with the
name at place `b`, and its command is the one with just the name that the entry has. -/
structure Binds (entry : Settings.Key) (k : KeyBinding) : Prop where
  modifiers_eq : k.modifiers = modifierListMask entry.modkey
  modifiers_bit : ∀ b, k.modifiers.toNat.testBit b = true ↔
    ∃ name, modifierNames[b]? = some name ∧ name ∈ entry.modkey
  keysym_eq : k.keysym = Keysym.ofName entry.key
  command_eq : ∀ c, k.command = some c ↔ c.name = entry.command
  command_unique : k.command.isSome ↔ ∃! c : Command, c.name = entry.command
  arg_eq : k.arg = entry.arg

theorem binds_ofSettings (entry : Settings.Key) : Binds entry (ofSettings entry).value where
  modifiers_eq := rfl
  modifiers_bit b := testBit_modifierListMask.trans exists_modifier_iff
  keysym_eq := rfl
  command_eq _ := Command.ofName?_eq_some_iff
  command_unique := by
    rw [value_ofSettings, Option.isSome_iff_exists]
    simp only [Command.ofName?_eq_some_iff]
    refine ⟨?_, ExistsUnique.exists⟩
    rintro ⟨c, hc⟩
    exact ⟨c, hc, fun c' hc' => Command.name_injective (hc'.trans hc.symm)⟩
  arg_eq := rfl

/-- What is reported of an entry with this binding: a command that is not known, unless there is
none, then a key that is not known, unless it is meant to be none. -/
def complaints (entry : Settings.Key) (k : KeyBinding) : List Warning :=
  (if k.command = none ∧ entry.command ≠ "" then [.unknownCommand entry.command entry.key] else []) ++
    if k.keysym = 0 ∧ entry.key ≠ "None" then [.unknownKey entry.key entry.command] else []

theorem warnings_ofSettings (entry : Settings.Key) :
    (ofSettings entry).warnings = complaints entry (ofSettings entry).value := by
  simp [ofSettings, complaints, Reported.warnIf, noKey, Keysym.none]

/-- The warnings about key bindings. -/
def isComplaint : Warning → Bool
  | .unknownCommand .. | .unknownKey .. => true
  | _ => false

theorem isComplaint_of_mem {entries : List Settings.Key} {w : Warning}
    (hw : w ∈ (Reported.map ofSettings entries).warnings) : isComplaint w = true := by
  obtain ⟨entry, -, hw⟩ := List.mem_flatMap.mp hw
  rw [warnings_ofSettings, complaints, List.mem_append] at hw
  rcases hw with hw | hw
  · split_ifs at hw
    · rw [List.mem_singleton.mp hw]
      rfl
    · cases hw
  · split_ifs at hw
    · rw [List.mem_singleton.mp hw]
      rfl
    · cases hw

end Session.KeyBinding

/-! ### The main modifier -/

theorem Session.mainModifier_of_name (m : Modifier) : Session.mainModifier m.name = m.bit := by
  cases m <;> rfl

theorem Session.mainModifier_of_unknown {name : String} (h : ∀ m : Modifier, m.name ≠ name) :
    Session.mainModifier name = Modifier.mod4.bit := by
  have hnone : Modifier.ofName? name = none :=
    Option.eq_none_iff_forall_ne_some.mpr fun m hm => h m (Modifier.ofName?_eq_some_iff.mp hm)
  rw [mainModifier, modifierMask, hnone]
  rfl

namespace Loading

open Session

variable {σ : Type} {p : Platform σ} {s : Settings} {r : Session}

/-! ### The bindings of a session -/

theorem keys_of_resolve {prog : Progress σ} (h : ((resolve p s).runFrom prog).1 = .ok r) :
    r.keys = s.keys.key.map fun entry => (KeyBinding.ofSettings entry).value := by
  obtain ⟨font, colors, state, ws, -, -, -, rfl⟩ := resolve_eq_ok_iff.mp h
  exact Reported.value_map ..

/-- No key binding keeps a session from coming about. -/
theorem resolve_with_keys {prog : Progress σ} (h : ((resolve p s).runFrom prog).1 = .ok r)
    (keys : Settings.Keys) : ∃ r', ((resolve p { s with keys }).runFrom prog).1 = .ok r' := by
  obtain ⟨font, colors, state, ws, hacquire, hstart, htags, -⟩ := resolve_eq_ok_iff.mp h
  exact ⟨_, resolve_eq_ok_iff.mpr ⟨font, colors, state, ws, hacquire, hstart, htags, rfl⟩⟩

/-- A load that succeeds reports the key bindings last, and nothing about them before. -/
theorem warnings_of_loaded {state : σ} (h : ((resolve p s).start state).1 = .ok r) :
    ∃ earlier, (∀ w ∈ earlier, KeyBinding.isComplaint w = false) ∧
      ((resolve p s).start state).2.warnings =
        earlier ++ (Reported.map KeyBinding.ofSettings s.keys.key).warnings := by
  obtain ⟨result, state', ws, hloads⟩ := exists_loads p s state
  rw [hloads.start] at h ⊢
  cases hloads with
  | noFont | refused | noDefaultLayout | noTags => cases h
  | loaded =>
    refine ⟨_, fun w hw => ?_, rfl⟩
    simp only [List.mem_append] at hw
    rcases hw with (hw | hw) | hw
    · obtain ⟨index, name, rfl⟩ := Layout.eq_unknownLayout_of_mem hw
      rfl
    · obtain ⟨field, text, rfl⟩ := Rule.eq_invalidPattern_of_mem hw
      rfl
    · rw [eq_numLockUnavailable_of_mem hw]
      rfl

/-- **Key bindings are kept one for one.** A session has one binding for each entry, in their order,
whatever their commands and keys are, and what is reported of them last is a function of the entries
and their bindings. The mask of a list of modifiers is the set of those that it names, and the main
modifier is the fourth one unless another is named. -/
theorem keys_bound_one_for_one (p : Platform σ) (s : Settings) (state : σ) (r : Session)
    (h : ((resolve p s).start state).1 = .ok r) :
    (∀ keys, ∃ r', ((resolve p { s with keys }).start state).1 = .ok r') ∧
    List.Forall₂ KeyBinding.Binds s.keys.key r.keys ∧
    MaskIsSet ∧
    (∃ earlier, (∀ w ∈ earlier, KeyBinding.isComplaint w = false) ∧
      ((resolve p s).start state).2.warnings =
        earlier ++ (List.zipWith KeyBinding.complaints s.keys.key r.keys).flatten) ∧
    (∀ b, modifierNames[b]? = some s.keys.modkey → r.modkey.toNat = 2 ^ b) ∧
    (s.keys.modkey ∉ modifierNames → r.modkey.toNat = 2 ^ 6) := by
  have hkeys := keys_of_resolve h
  have hmodkey : r.modkey = mainModifier s.keys.modkey := by
    obtain ⟨font, colors, state, ws, -, -, -, rfl⟩ := resolve_eq_ok_iff.mp h
    rfl
  refine ⟨resolve_with_keys h, ?_, maskIsSet, ?_, fun b hb => ?_, fun hunknown => ?_⟩
  · rw [hkeys, List.forall₂_map_right_iff]
    exact List.forall₂_same.mpr fun entry _ => KeyBinding.binds_ofSettings entry
  · obtain ⟨earlier, hearlier, hwarnings⟩ := warnings_of_loaded h
    refine ⟨earlier, hearlier, ?_⟩
    rw [hwarnings, hkeys, List.zipWith_map_right, List.zipWith_self, ← List.flatMap_def,
      Reported.warnings_map]
    simp only [KeyBinding.warnings_ofSettings]
  · obtain ⟨m, hname, hslot⟩ := exists_modifier hb
    rw [hmodkey, ← hname, mainModifier_of_name, Modifier.toNat_bit, hslot]
  · have hnone : ∀ m : Modifier, m.name ≠ s.keys.modkey := fun m hm =>
      hunknown (List.mem_of_getElem? (hm ▸ modifierNames_slot m))
    rw [hmodkey, mainModifier_of_unknown hnone]
    rfl

/-- Two bindings, the second of them with a command and a key that are not known. -/
theorem keys_bound_one_for_one_unknown :
    let p : Platform Unit :=
      { screen := 0
        physScreen := 0
        openFont := fun d _ => (.ok d.loaded, ())
        allocColor := fun _ _ => (.ok ⟨1, ⟨0, 0, 0⟩⟩, ())
        numLockMask := fun _ => (.ok 16, ()) }
    let s : Settings :=
      { tags := [{ title := "1" }]
        layouts := { layout := [{ title := "tile" }] }
        keys :=
          { modkey := "None"
            key := [{ modkey := ["Shift", "Mod4", "Shift"], key := "a", command := "zoom" },
              { modkey := ["None"], key := "F0", command := "dance" }] } }
    ∃ r first second, ((resolve p s).start ()).1 = .ok r ∧ r.keys = [first, second] ∧
      first.modifiers.toNat.testBit 6 = true ∧ first.command = some .zoom ∧
      r.modkey.toNat = 2 ^ 6 ∧
      [.unknownCommand "dance" "F0", .unknownKey "F0" "dance"] <:+
        ((resolve p s).start ()).2.warnings := by
  intro p s
  have hload : ∃ r, ((resolve p s).start ()).1 = .ok r :=
    ⟨_, resolve_eq_ok_iff.mpr ⟨_, _, _, _, rfl, rfl, nofun, rfl⟩⟩
  obtain ⟨r, hr⟩ := hload
  obtain ⟨-, hbinds, -, ⟨earlier, -, hwarnings⟩, -, hmodkey⟩ := keys_bound_one_for_one p s () r hr
  obtain ⟨first, second, hkeys⟩ := List.length_eq_two.mp hbinds.length_eq.symm
  rw [hkeys] at hbinds hwarnings
  obtain ⟨hfirst, hbinds⟩ := List.forall₂_cons.mp hbinds
  obtain ⟨hsecond, -⟩ := List.forall₂_cons.mp hbinds
  refine ⟨r, first, second, hr, hkeys, (hfirst.modifiers_bit 6).mpr ⟨"Mod4", rfl, by decide⟩,
    (hfirst.command_eq _).mpr rfl, hmodkey (by decide), ?_⟩
  have hcommand : second.command = none := Option.eq_none_iff_forall_ne_some.mpr fun c hc =>
    absurd ((hsecond.command_eq c).mp hc) (by cases c <;> decide)
  have hkeysym : second.keysym = 0 :=
    hsecond.keysym_eq.trans (show Keysym.ofName "F0" = 0 by decide +kernel)
  have hcomplaints : KeyBinding.complaints { modkey := ["None"], key := "F0", command := "dance" }
      second = [.unknownCommand "dance" "F0", .unknownKey "F0" "dance"] := by
    rw [KeyBinding.complaints, if_pos ⟨hcommand, by decide⟩, if_pos ⟨hkeysym, by decide⟩]
    rfl
  rw [hwarnings, List.zipWith_cons_cons, List.zipWith_cons_cons, List.zipWith_nil_left, hcomplaints,
    List.flatten_cons, List.flatten_cons, ← List.append_assoc]
  exact List.suffix_append _ _

end Loading

end WmConfig
