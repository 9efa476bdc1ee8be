import Mathlib.Data.List.Nodup
import WmConfig.Platform.Scripted
import WmConfig.Proofs.Session.Acquisition

/-! # Colours over many loads

A scripted platform numbers the colours that it gives out. When configurations are loaded on it one
after the other, each load takes up the count where the one before has left it, also where that one
has failed (`loads_accounted`): a load that succeeds has the next six pixels in order, and one that
fails has used as many as it had been given by then. -/

namespace WmConfig

open Loading

namespace Script

variable {script : Script} {n n' : ℕ} {spec : String} {specs : List String} {c : AllocatedColor}
  {cs : List AllocatedColor} {refusal : Option (String × Failure)} {failure : Failure}
  {s : Settings}

/-! ### Colours given out -/

theorem platform_allocColor (script : Script) (spec : String) (n : ℕ) :
    script.platform.allocColor spec n =
      match script.color? spec with
      | .ok rgb => (.ok ⟨UInt32.ofNat (n + 1), rgb⟩, n + 1)
      | .error failure => (.error failure, n) := rfl

theorem allocColor_eq_ok (h : script.platform.allocColor spec n = (.ok c, n')) :
    script.color? spec = .ok c.rgb ∧ c.pixel = UInt32.ofNat (n + 1) ∧ n' = n + 1 := by
  rw [platform_allocColor] at h
  cases hcolor : script.color? spec with
  | ok rgb =>
    rw [hcolor] at h
    obtain ⟨hc, rfl⟩ := Prod.mk.inj h
    obtain rfl := Except.ok.inj hc
    exact ⟨rfl, rfl, rfl⟩
  | error failure =>
    rw [hcolor] at h
    cases (Prod.mk.inj h).1

theorem allocColor_eq_error (h : script.platform.allocColor spec n = (.error failure, n')) :
    script.color? spec = .error failure ∧ n' = n := by
  rw [platform_allocColor] at h
  cases hcolor : script.color? spec with
  | ok rgb =>
    rw [hcolor] at h
    cases (Prod.mk.inj h).1
  | error failure' =>
    rw [hcolor] at h
    obtain ⟨hfailure, rfl⟩ := Prod.mk.inj h
    exact ⟨congrArg Except.error (Except.error.inj hfailure), rfl⟩

/-- The colours given out for the texts after `n` others: they have the next pixels in order, and
each is the colour of its text. -/
structure GivesOut (script : Script) (n : ℕ) (specs : List String) (cs : List AllocatedColor) :
    Prop where
  calls : Allocates script.platform n specs cs none (n + cs.length)
  pixels : cs.map (·.pixel.toNat) = List.range' (n + 1) cs.length
  rgbs : List.Forall₂ (fun spec c => script.color? spec = .ok c.rgb) specs cs

theorem GivesOut.nil : script.GivesOut n [] [] := ⟨.done, rfl, .nil⟩

theorem GivesOut.cons (answer : script.platform.allocColor spec n = (.ok c, n + 1))
    (hlt : n + 1 < 2 ^ 32) (h : script.GivesOut (n + 1) specs cs) :
    script.GivesOut n (spec :: specs) (c :: cs) := by
  obtain ⟨hrgb, hpixel, -⟩ := allocColor_eq_ok answer
  refine ⟨.granted answer ?_, ?_, .cons hrgb h.rgbs⟩
  · rw [List.length_cons, Nat.add_comm cs.length, ← Nat.add_assoc]
    exact h.calls
  · rw [List.map_cons, h.pixels, List.length_cons, List.range'_succ, hpixel,
      UInt32.toNat_ofNat_of_lt' hlt]

/-- Colours allocated up to a refusal are given out, and the refusal changes nothing. -/
theorem givesOut_of_allocates (h : Allocates script.platform n specs cs refusal n')
    (hlt : n' < 2 ^ 32) :
    script.GivesOut n (specs.take cs.length) cs ∧ n' = n + cs.length := by
  induction h with
  | done => exact ⟨.nil, rfl⟩
  | refused answer => exact ⟨.nil, (allocColor_eq_error answer).2⟩
  | granted answer _ ih =>
    obtain ⟨-, -, rfl⟩ := allocColor_eq_ok answer
    obtain ⟨hgives, rfl⟩ := ih hlt
    exact ⟨hgives.cons answer (by omega), by rw [List.length_cons]; omega⟩

theorem refused_of_allocates (h : Allocates script.platform n specs cs (some (spec, failure)) n') :
    specs[cs.length]? = some spec ∧ script.color? spec = .error failure := by
  generalize hrefusal : some (spec, failure) = refusal at h
  induction h with
  | done => cases hrefusal
  | refused answer =>
    cases hrefusal
    exact ⟨rfl, (allocColor_eq_error answer).1⟩
  | granted _ _ ih => exact ih hrefusal

/-! ### The account of a load -/

/-- What a load uses up after `n` colours: its result, and the count after it. -/
inductive Accounts (script : Script) (s : Settings) (n : ℕ) :
    Except LoadError Session → ℕ → Prop
  | noFont {failure : Failure} (fails : script.fontFailure = some failure) :
      Accounts script s n (.error (.font s.general.font failure.reason)) n
  | refused {cs : List AllocatedColor} {spec : String} {failure : Failure}
      (place : s.colors.toList[cs.length]? = some spec)
      (fails : script.color? spec = .error failure)
      (used : script.GivesOut n (s.colors.toList.take cs.length) cs) :
      Accounts script s n (.error (.color spec failure.reason)) (n + cs.length)
  | incomplete {cs : List AllocatedColor} {e : LoadError} (missing : Missing s e)
      (used : script.GivesOut n s.colors.toList cs) : Accounts script s n (.error e) (n + 6)
  | loaded {r : Session} {font : LoadedFont} (theme : r.theme = .ofPalette font r.colors)
      (used : script.GivesOut n s.colors.toList r.colors.toList) :
      Accounts script s n (.ok r) (n + 6)

theorem givesOut_palette {colors : Palette AllocatedColor}
    (h : Allocates script.platform n s.colors.toList colors.toList none n')
    (hlt : n' < 2 ^ 32) :
    script.GivesOut n s.colors.toList colors.toList ∧ n' = n + 6 :=
  givesOut_of_allocates h hlt

theorem openFont_eq (script : Script) (font : FontDescriptor) (n : ℕ) :
    script.platform.openFont font n = (unlessFailing script.fontFailure font.loaded, n) := rfl

theorem openFont_eq_error {font : FontDescriptor}
    (h : script.platform.openFont font n = (.error failure, n')) :
    script.fontFailure = some failure ∧ n' = n := by
  rw [openFont_eq] at h
  obtain ⟨hfailure, rfl⟩ := Prod.mk.inj h
  cases hfont : script.fontFailure with
  | none =>
    rw [hfont] at hfailure
    cases hfailure
  | some failure' =>
    rw [hfont] at hfailure
    exact ⟨congrArg some (Except.error.inj hfailure), rfl⟩

theorem openFont_eq_ok {font : FontDescriptor} {loaded : LoadedFont}
    (h : script.platform.openFont font n = (.ok loaded, n')) :
    script.fontFailure = none ∧ n' = n := by
  rw [openFont_eq] at h
  obtain ⟨hloaded, rfl⟩ := Prod.mk.inj h
  cases hfont : script.fontFailure with
  | none => exact ⟨rfl, rfl⟩
  | some failure =>
    rw [hfont] at hloaded
    cases hloaded

/-- Every load is accounted for. -/
theorem accounts_of_loads {result : Except LoadError Session} {ws : List Warning}
    (h : Loads script.platform s n result n' ws) (hlt : n' < 2 ^ 32) :
    script.Accounts s n result n' := by
  cases h with
  | noFont font =>
    obtain ⟨hfailure, rfl⟩ := openFont_eq_error font
    exact .noFont hfailure
  | refused opened colors =>
    obtain ⟨-, rfl⟩ := openFont_eq_ok opened
    obtain ⟨hgives, rfl⟩ := givesOut_of_allocates colors hlt
    obtain ⟨hplace, hrefused⟩ := refused_of_allocates colors
    exact .refused hplace hrefused hgives
  | noDefaultLayout opened granted layout =>
    obtain ⟨-, rfl⟩ := openFont_eq_ok opened
    obtain ⟨hgives, rfl⟩ := givesOut_palette granted hlt
    exact .incomplete (.layout layout) hgives
  | noTags opened granted layout tags =>
    obtain ⟨-, rfl⟩ := openFont_eq_ok opened
    obtain ⟨hgives, rfl⟩ := givesOut_palette granted hlt
    exact .incomplete (.tags tags) hgives
  | loaded opened granted layout tags numLock =>
    obtain ⟨-, rfl⟩ := openFont_eq_ok opened
    obtain ⟨-, rfl⟩ := Prod.mk.inj numLock
    obtain ⟨hgives, rfl⟩ := givesOut_palette granted hlt
    exact .loaded rfl hgives

/-! ### The count after a load -/

/-- Whether the colour is given out. -/
def gives (script : Script) (spec : String) : Bool := (script.color? spec).isOk

/-- How many colours a load of the settings uses up: those before the first one that is refused,
and none without the font. -/
def uses (script : Script) (s : Settings) : ℕ :=
  if script.fontFailure.isSome then 0 else (s.colors.toList.takeWhile script.gives).length

theorem count_of_allocates (h : Allocates script.platform n specs cs refusal n') :
    n' = n + (specs.takeWhile script.gives).length := by
  induction h with
  | done => rfl
  | @refused _ _ spec _ _ answer =>
    obtain ⟨hcolor, rfl⟩ := allocColor_eq_error answer
    have hrefused : ¬ script.gives spec = true := by
      rw [gives, hcolor]
      exact Bool.false_ne_true
    rw [List.takeWhile_cons_of_neg hrefused]
    rfl
  | @granted _ _ _ spec _ _ _ _ answer _ ih =>
    obtain ⟨hcolor, -, rfl⟩ := allocColor_eq_ok answer
    have hgiven : script.gives spec = true := by
      rw [gives, hcolor]
      rfl
    rw [ih, List.takeWhile_cons_of_pos hgiven, List.length_cons]
    omega

/-- **The count after a load**, however it ends. -/
theorem count_of_loads {result : Except LoadError Session} {ws : List Warning}
    (h : Loads script.platform s n result n' ws) : n' = n + script.uses s := by
  have huses : script.fontFailure = none →
      script.uses s = (s.colors.toList.takeWhile script.gives).length := by
    intro hfont
    rw [uses, hfont]
    rfl
  cases h with
  | noFont font =>
    obtain ⟨hfailure, rfl⟩ := openFont_eq_error font
    rw [uses, hfailure]
    rfl
  | refused opened colors =>
    obtain ⟨hfont, rfl⟩ := openFont_eq_ok opened
    rw [huses hfont]
    exact count_of_allocates colors
  | noDefaultLayout opened granted | noTags opened granted =>
    obtain ⟨hfont, rfl⟩ := openFont_eq_ok opened
    rw [huses hfont]
    exact count_of_allocates granted
  | loaded opened granted _ _ numLock =>
    obtain ⟨hfont, rfl⟩ := openFont_eq_ok opened
    obtain ⟨-, rfl⟩ := Prod.mk.inj numLock
    rw [huses hfont]
    exact count_of_allocates granted

end Script

/-! ### Loads one after the other -/

namespace Loading

/-- A load in a row of loads: the count of colours before and after it. -/
structure Turn where
  script : Script
  text : String
  before : ℕ
  result : Except LoadError Session
  after : ℕ

namespace Turn

/-- Loads a text as scripted, after `n` colours. -/
def take (script : Script) (text : String) (n : ℕ) : Turn where
  script
  text
  before := n
  result := ((ofText script.platform text).start n).1
  after := ((ofText script.platform text).start n).2.platform

/-- Loads texts one after the other, each as scripted, after `n` colours. -/
def takeAll : ℕ → List (Script × String) → List Turn
  | _, [] => []
  | n, (script, text) :: rest => take script text n :: takeAll (take script text n).after rest

/-- The pixels of the session that was loaded, if one was. -/
def pixels (l : Turn) : List UInt32 :=
  match l.result with
  | .ok r => r.colors.toList.map (·.pixel)
  | .error _ => []

/-- The load is accounted for. -/
def Accounted (l : Turn) : Prop :=
  l.script.Accounts (Settings.parse l.text).value l.before l.result l.after

@[simp] theorem before_take (script : Script) (text : String) (n : ℕ) :
    (take script text n).before = n := rfl

/-- What a load in a row gives is how the load ends. -/
theorem exists_take_eq (script : Script) (text : String) (n : ℕ) : ∃ result n' ws,
    Loads script.platform (Settings.parse text).value n result n' ws ∧
      take script text n = ⟨script, text, n, result, n'⟩ := by
  obtain ⟨result, n', ws, h⟩ := exists_loads script.platform (Settings.parse text).value n
  have hstart : (ofText script.platform text).start n =
      (result, ⟨n', (Settings.parse text).warnings ++ ws⟩) := by
    rw [start_eq, ofText, runFrom_bind, runFrom_report]
    exact h.runFrom _
  exact ⟨result, n', ws, h, by rw [take, hstart]⟩

theorem accounted_take {script : Script} {text : String} {n : ℕ}
    (hlt : (take script text n).after < 2 ^ 32) : (take script text n).Accounted := by
  obtain ⟨result, n', ws, h, htake⟩ := exists_take_eq script text n
  rw [htake] at hlt ⊢
  exact Script.accounts_of_loads h hlt

/-- A load in a row adds to the count what it uses up. -/
theorem after_take (script : Script) (text : String) (n : ℕ) :
    (take script text n).after = n + script.uses (Settings.parse text).value := by
  obtain ⟨result, n', ws, h, htake⟩ := exists_take_eq script text n
  rw [htake]
  exact Script.count_of_loads h

/-- The pixels of a session lie between the counts. -/
theorem Accounted.exists_range {l : Turn} (h : l.Accounted) :
    ∃ k, l.pixels.map UInt32.toNat = List.range' (l.before + 1) k ∧ l.before + k ≤ l.after := by
  obtain ⟨script, text, before, result, after⟩ := l
  change script.Accounts (Settings.parse text).value before result after at h
  unfold pixels
  cases h with
  | noFont | refused | incomplete => exact ⟨0, rfl, by simp⟩
  | loaded theme used =>
    refine ⟨6, ?_, le_rfl⟩
    rw [List.map_map]
    exact used.pixels

/-- The pixels of the sessions grow from load to load. -/
theorem pairwise_pixels {n : ℕ} {loads : List (Script × String)}
    (h : ∀ l ∈ takeAll n loads, l.Accounted) :
    (((takeAll n loads).flatMap pixels).map UInt32.toNat).Pairwise (· < ·) ∧
      ∀ x ∈ ((takeAll n loads).flatMap pixels).map UInt32.toNat, n < x := by
  induction loads generalizing n with
  | nil => exact ⟨.nil, by simp [takeAll]⟩
  | cons load rest ih =>
    obtain ⟨script, text⟩ := load
    rw [takeAll] at h ⊢
    obtain ⟨hfirst, hrest⟩ := List.forall_mem_cons.mp h
    obtain ⟨k, hpixels, hle⟩ := hfirst.exists_range
    obtain ⟨hsorted, habove⟩ := ih hrest
    rw [before_take] at hpixels hle
    rw [List.flatMap_cons, List.map_append, hpixels]
    -- The first load stays within its count, and the later ones are above it.
    refine ⟨List.pairwise_append.mpr ⟨List.pairwise_lt_range' .., hsorted, ?_⟩, ?_⟩
    · intro x hx y hy
      have := (List.mem_range'_1.mp hx).2
      have := habove y hy
      omega
    · intro x hx
      rcases List.mem_append.mp hx with hx | hx
      · exact (List.mem_range'_1.mp hx).1
      · have := habove x hx
        omega

theorem accounted_takeAll {n : ℕ} {loads : List (Script × String)}
    (hlt : ∀ l ∈ takeAll n loads, l.after < 2 ^ 32) : ∀ l ∈ takeAll n loads, l.Accounted := by
  induction loads generalizing n with
  | nil => exact fun _ hl => absurd hl List.not_mem_nil
  | cons load rest ih =>
    obtain ⟨hfirst, hrest⟩ := List.forall_mem_cons.mp hlt
    exact List.forall_mem_cons.mpr ⟨accounted_take hfirst, ih hrest⟩

/-- **Loads one after the other are accounted for.** A session that is loaded has the next six
pixels, in the order of the palette and each with the colour of its text. A load that fails has used
the pixels of the colours before the one refused, none without its font, and all six where a layout
or a tag is missing. So no pixel is given twice. -/
theorem loads_accounted (n : ℕ) (loads : List (Script × String))
    (hlt : ∀ l ∈ takeAll n loads, l.after < 2 ^ 32) :
    (∀ l ∈ takeAll n loads, l.Accounted) ∧ ((takeAll n loads).flatMap pixels).Nodup := by
  have haccounted := accounted_takeAll hlt
  have hsorted := (pairwise_pixels haccounted).1
  exact ⟨haccounted, .of_map UInt32.toNat (hsorted.imp Nat.ne_of_lt)⟩

/-- A load without its font uses no pixel, one whose third colour is refused two, and one without a
layout six. -/
theorem loads_accounted_failing :
    let loads : List (Script × String) := [({ fontFailure := some (.because "none") }, ""),
      ({ colorFailures := [("#eeeeee", .because "full")] }, ""), ({}, "")]
    (takeAll 0 loads).map (·.after) = [0, 2, 8] ∧ ∀ l ∈ takeAll 0 loads, l.Accounted := by
  intro loads
  have hcolors : (Settings.parse "").value.colors = Settings.defaultColors := rfl
  have hafter : (takeAll 0 loads).map (·.after) = [0, 2, 8] := by
    simp only [loads, takeAll, List.map_cons, List.map_nil, after_take, Script.uses, hcolors]
    rfl
  refine ⟨hafter, (loads_accounted 0 loads fun l hl => ?_).1⟩
  have hmem : l.after ∈ [0, 2, 8] := hafter ▸ List.mem_map_of_mem hl
  have hle : ∀ x ∈ [0, 2, 8], x < 2 ^ 32 := by decide
  exact hle _ hmem

end Turn

end Loading

end WmConfig
