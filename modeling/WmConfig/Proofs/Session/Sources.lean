import WmConfig.Platform.Recorded
import WmConfig.Platform.Scripted
import WmConfig.Proofs.Session.Acquisition
import WmConfig.Proofs.Text.Bytes
import WmConfig.Proofs.Toml.Appended

/-! # Where the settings of a session come from

A load reads one file: the one at the path that it is given, and else the one in the home directory.
A file that is missing, that is a directory, that is no text or that has a fault leaves the
defaults, whatever else stands in it. The load then goes as far as it can with the defaults, which
name no layout, so it always fails (`settings_of_file`). -/

namespace WmConfig

namespace Loading

variable {σ : Type}

/-! ### Files -/

/-- What stands at a path. -/
inductive Found where
  /-- There is nothing. -/
  | nothing
  /-- A directory. -/
  | directory
  /-- A file with its bytes. -/
  | file (contents : ByteArray)

/-- The bytes of a file that can be read. -/
def Found.contents? : Found → Option ByteArray
  | file contents => some contents
  | _ => none

/-- The session of the configuration file among the given files. -/
def loadFrom (p : Platform σ) (files : String → Found) (explicit home : Option String) :
    Loading σ Session :=
  load p (fun path => (files path).contents?) explicit home

/-- **What no settings are read from**, and what is reported then: a file that is missing, a
directory, bytes that are no text, and a text that is no document. -/
inductive Faulty : Found → Warning → Prop
  | nothing : Faulty .nothing .unreadable
  | directory : Faulty .directory .unreadable
  | notText {contents : ByteArray} (bytes : ¬ contents.IsValidUTF8) :
      Faulty (.file contents) .unreadable
  | notDocument {text : String} (document : Toml.document? text = none) :
      Faulty (.file text.toUTF8) .malformed

theorem fromUTF8?_toUTF8 (text : String) : String.fromUTF8? text.toUTF8 = some text :=
  dif_pos text.isValidUTF8

/-- **A fault leaves the defaults**, with one warning. -/
theorem Faulty.ofBytes {found : Found} {w : Warning} (h : Faulty found w) :
    Settings.ofBytes found.contents? = ⟨{}, [w]⟩ := by
  cases h with
  | nothing => rfl
  | directory => rfl
  | notText bytes =>
    have hnone : String.fromUTF8? _ = none := dif_neg bytes
    rw [Found.contents?, Settings.ofBytes, Option.bind_some, hnone]
  | notDocument document =>
    rw [Found.contents?, Settings.ofBytes, Option.bind_some, fromUTF8?_toUTF8]
    rw [Toml.document?] at document
    change Settings.parse _ = _
    rw [Settings.parse, document]

/-! ### Faults anywhere -/

/-- These bytes are in no text. -/
theorem byte_of_utf8EncodeChar (c : Char) :
    ∀ b ∈ String.utf8EncodeChar c, b ≠ 0xc0 ∧ b ≠ 0xc1 ∧ b < 0xf5 := by
  have hmax : c.val.toNat < 0x110000 := by
    rcases c.valid with hc | ⟨-, hc⟩
    · exact Nat.lt_trans hc (by decide)
    · exact hc
  have hbyte : ∀ n < 256, n ≠ 0xc0 → n ≠ 0xc1 → n < 0xf5 →
      UInt8.ofNat n ≠ 0xc0 ∧ UInt8.ofNat n ≠ 0xc1 ∧ UInt8.ofNat n < 0xf5 := by
    intro n hn h₀ h₁ hlt
    rw [ne_eq, ne_eq, ← UInt8.toNat_inj, ← UInt8.toNat_inj, UInt8.lt_iff_toNat_lt,
      UInt8.toNat_ofNat_of_lt' hn]
    exact ⟨h₀, h₁, hlt⟩
  unfold String.utf8EncodeChar
  generalize c.val.toNat = n at *
  have hdiv : n / 64 / 64 = n / 4096 ∧ n / 4096 / 64 = n / 262144 :=
    ⟨Nat.div_div_eq_div_mul n 64 64, Nat.div_div_eq_div_mul n 4096 64⟩
  simp only
  split_ifs <;> simp only [List.forall_mem_cons, List.not_mem_nil, false_imp_iff, implies_true]
  all_goals repeat' refine And.intro (hbyte _ (by omega) (by omega) (by omega) (by omega)) ?_
  all_goals trivial

/-- **A byte that is in no text** makes a file no text, wherever it stands. -/
theorem faulty_of_byte {contents : ByteArray} {b : UInt8} (hmem : b ∈ contents.data.toList)
    (hb : b = 0xc0 ∨ b = 0xc1 ∨ 0xf5 ≤ b) : Faulty (.file contents) .unreadable := by
  refine .notText fun ⟨cs, hcs⟩ => ?_
  rw [hcs, List.utf8Encode, List.toList_data_toByteArray] at hmem
  obtain ⟨c, -, hc⟩ := List.mem_flatMap.mp hmem
  obtain ⟨h₀, h₁, hlt⟩ := byte_of_utf8EncodeChar c _ hc
  rcases hb with rfl | rfl | hle
  · exact h₀ rfl
  · exact h₁ rfl
  · exact absurd hlt (UInt8.not_lt.mpr hle)

/-- **A fault further down** is a fault of the whole, whatever could be read before it. -/
theorem faulty_of_append {text₁ text₂ : String} {es : List Toml.Expression}
    (h₁ : Toml.expressionsOf? text₁ = some es) (h₂ : Toml.expressionsOf? text₂ = none)
    (hmark : text₂.toList.head? ≠ some '\ufeff') :
    Faulty (.file (text₁ ++ "\n" ++ text₂).toUTF8) .malformed := by
  refine .notDocument ?_
  rw [Toml.document?, Toml.parse?_eq, Toml.expressionsOf?_append_eq_none h₁ h₂ hmark]
  rfl

/-! ### The defaults -/

/-- **The defaults make no session**, on no platform. -/
theorem resolve_defaults (p : Platform σ) (state : σ) : ∃ e state',
    ∀ ws, (resolve p {}).runFrom ⟨state, ws⟩ = (.error e, ⟨state', ws⟩) := by
  obtain ⟨result, state', ws', hloads⟩ := exists_loads p {} state
  have hlayout : ¬ HasDefaultLayout {} := fun h => absurd (startable_iff.mpr h) (by decide)
  obtain ⟨e, rfl, rfl⟩ : ∃ e, result = .error e ∧ ws' = [] := by
    cases hloads with
    | noFont _ => exact ⟨_, rfl, rfl⟩
    | refused _ _ => exact ⟨_, rfl, rfl⟩
    | noDefaultLayout _ _ _ => exact ⟨_, rfl, rfl⟩
    | noTags _ _ layout _ => exact absurd layout hlayout
    | loaded _ _ layout _ _ => exact absurd layout hlayout
  exact ⟨e, state', fun ws => by rw [hloads.runFrom, List.append_nil]⟩

/-! ### Paths -/

theorem inDirectory_eq {home file : String} (hne : home ≠ "")
    (hslash : ¬ ['/'] <:+ home.toList) : Settings.inDirectory home file = home ++ "/" ++ file := by
  have hends : home.endsWith "/" = false := by
    rw [Bool.eq_false_iff, ne_eq, String.endsWith_eq_endsWith_toSlice,
      String.Slice.endsWith_string_iff]
    simpa using hslash
  rw [Settings.inDirectory, hends, Bool.or_false, if_neg (by simpa using hne)]

/-! ### One file -/

/-- **Which file the settings come from, and what becomes of one with a fault.** Only the file at the
path counts, which is the one given or else that in the home directory; without either nothing is
asked of the platform. All faults have the outcome of the defaults, with the same calls and one
warning, and there is no session; neither does it matter where in the file the fault is. -/
theorem settings_of_file (p : Platform σ) (state : σ) (files : String → Found) :
    (∀ path home, loadFrom p files (some path) home =
      report (Settings.ofBytes (files path).contents?) >>= resolve p) ∧
    (∀ path home home' files', files' path = files path →
      loadFrom p files' (some path) home' = loadFrom p files (some path) home) ∧
    (∀ home, loadFrom p files none (some home) =
        loadFrom p files (some (Settings.inDirectory home ".awesomerc")) none ∧
      (home ≠ "" → ¬ ['/'] <:+ home.toList →
        Settings.inDirectory home ".awesomerc" = home ++ "/" ++ ".awesomerc")) ∧
    (loadFrom p.recorded files none none).start ⟨state, []⟩ =
      (.error .noHomeDirectory, ⟨⟨state, []⟩, []⟩) ∧
    (∃ e r, (resolve p.recorded {}).start ⟨state, []⟩ = (.error e, ⟨r, []⟩) ∧
      ∀ explicit home path w, Settings.locate? explicit home = some path → Faulty (files path) w →
        (loadFrom p.recorded files explicit home).start ⟨state, []⟩ = (.error e, ⟨r, [w]⟩)) ∧
    (∀ (contents : ByteArray) b, b ∈ contents.data.toList → b = 0xc0 ∨ b = 0xc1 ∨ 0xf5 ≤ b →
      Faulty (.file contents) .unreadable) ∧
    ∀ text₁ text₂ es, Toml.expressionsOf? text₁ = some es → Toml.expressionsOf? text₂ = none →
      text₂.toList.head? ≠ some '\ufeff' →
      Faulty (.file (text₁ ++ "\n" ++ text₂).toUTF8) .malformed := by
  refine ⟨fun _ _ => rfl, fun path _ _ files' hfiles => ?_,
    fun home => ⟨rfl, inDirectory_eq⟩, rfl, ?_, fun _ _ => faulty_of_byte,
    fun _ _ _ => faulty_of_append⟩
  · change report (Settings.ofBytes (files' path).contents?) >>= resolve p = _
    rw [hfiles]
    rfl
  · obtain ⟨e, r, hdefaults⟩ := resolve_defaults p.recorded ⟨state, []⟩
    refine ⟨e, r, hdefaults [], fun explicit home path w hpath hfault => ?_⟩
    have hload : loadFrom p.recorded files explicit home =
        report ⟨{}, [w]⟩ >>= resolve p.recorded := by
      rw [loadFrom, load, hpath, ← hfault.ofBytes]
    rw [hload, start_eq, runFrom_bind, runFrom_report]
    exact hdefaults [w]

/-- A comment that is no text, and a fault below a section that could be read. -/
theorem settings_of_file_late :
    let files : String → Found := fun path =>
      if path = "/a" then .file ⟨#[0x23, 0x20, 0xff]⟩
      else .file ("[general]\nborder = 3" ++ "\n" ++ "snap 4").toUTF8
    ∃ e r, (resolve (Script.platform {}).recorded {}).start ⟨0, []⟩ = (.error e, ⟨r, []⟩) ∧
      (loadFrom (Script.platform {}).recorded files (some "/a") (some "/h")).start ⟨0, []⟩ =
        (.error e, ⟨r, [.unreadable]⟩) ∧
      (loadFrom (Script.platform {}).recorded files none (some "/h")).start ⟨0, []⟩ =
        (.error e, ⟨r, [.malformed]⟩) := by
  intro files
  obtain ⟨-, -, -, -, ⟨e, r, hdefaults, hfaulty⟩, hbyte, happend⟩ :=
    settings_of_file (Script.platform {}) 0 files
  obtain ⟨es, hes⟩ : ∃ es, Toml.expressionsOf? "[general]\nborder = 3" = some es :=
    Option.isSome_iff_exists.mp (by decide +kernel)
  have hnone : Toml.expressionsOf? "snap 4" = none := Option.isNone_iff_eq_none.mp (by decide +kernel)
  have hhome : files (Settings.inDirectory "/h" ".awesomerc") =
      .file ("[general]\nborder = 3" ++ "\n" ++ "snap 4").toUTF8 := if_neg (by decide +kernel)
  exact ⟨e, r, hdefaults,
    hfaulty _ _ _ _ rfl (hbyte _ 0xff (by decide) (.inr (.inr (by decide)))),
    hfaulty _ _ _ _ rfl (hhome ▸ happend _ _ es hes hnone (by decide))⟩

end Loading

end WmConfig
