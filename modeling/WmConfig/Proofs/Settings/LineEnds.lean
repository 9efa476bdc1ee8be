import WmConfig.Proofs.Toml.Written
import WmConfig.Proofs.Settings.Sections

/-! # Line ends and the byte order mark

Each line of a text may end with a line feed alone or with a carriage return before it, and a byte
order mark may stand in front: the settings and what is reported stay the same
(`line_ends_ignored`). This holds for texts with a fault as well, which keep their fault. -/

namespace WmConfig.Toml

/-- The second text is the first with a carriage return put before some of its line feeds. -/
inductive Returned : List Char → List Char → Prop
  | nil : Returned [] []
  | keep (c : Char) {cs cs' : List Char} (h : Returned cs cs') : Returned (c :: cs) (c :: cs')
  | add {cs cs' : List Char} (h : Returned cs cs') : Returned ('\n' :: cs) ('\r' :: '\n' :: cs')

/-- The text with a carriage return before every line feed. -/
def withReturns (text : String) : String :=
  String.ofList (text.toList.flatMap fun c => if c = '\n' then ['\r', '\n'] else [c])

/-- The text after a byte order mark. -/
def withMark (text : String) : String := String.ofList ('\ufeff' :: text.toList)

theorem Returned.refl : ∀ cs : List Char, Returned cs cs
  | [] => .nil
  | c :: cs => .keep c (Returned.refl cs)

theorem returned_flatMap : ∀ cs : List Char,
    Returned cs (cs.flatMap fun c => if c = '\n' then ['\r', '\n'] else [c])
  | [] => .nil
  | c :: cs => by
    rw [List.flatMap_cons]
    split_ifs with hc
    · rw [hc]
      exact .add (returned_flatMap cs)
    · exact .keep c (returned_flatMap cs)

theorem returned_withReturns (text : String) :
    Returned text.toList (withReturns text).toList := by
  rw [withReturns, String.toList_ofList]
  exact returned_flatMap _

namespace Returned

variable {cs cs' : List Char}

/-- **The carriage returns are taken out again.** -/
theorem joinLineEnds (h : Returned cs cs') (hcs : ∀ c ∈ cs, c ≠ '\r') :
    joinLineEnds cs' = cs := by
  induction h with
  | nil => rfl
  | keep c _ ih =>
    obtain ⟨hc, hcs⟩ := List.forall_mem_cons.mp hcs
    rw [joinLineEnds.eq_3 _ _ fun _ heq => absurd heq hc, ih hcs]
  | add _ ih =>
    obtain ⟨-, hcs⟩ := List.forall_mem_cons.mp hcs
    rw [joinLineEnds.eq_2, ih hcs]

/-- No byte order mark comes in with the carriage returns. -/
theorem skipMark (h : Returned cs cs') (hcs : cs.head? ≠ some '\ufeff') :
    skipMark cs' = cs' := by
  have hmark : ∀ {c : Char} {cs : List Char}, c ≠ '\ufeff' → Toml.skipMark (c :: cs) = c :: cs :=
    fun hc => skipMark.eq_2 _ fun _ heq => hc (List.cons.inj heq).1
  cases h with
  | nil => rfl
  | keep c h => exact hmark fun hc => hcs (congrArg some hc)
  | add h => exact hmark (by decide)

end Returned

/-- **The same document**, whichever line ends are used, with and without a byte order mark. -/
theorem parse?_returned {text text' : String} (h : Returned text.toList text'.toList)
    (hreturn : ∀ c ∈ text.toList, c ≠ '\r') (hmark : text.toList.head? ≠ some '\ufeff') :
    parse? text' = parse? text ∧ parse? (withMark text') = parse? text := by
  have hread : ∀ {cs : List Char}, skipMark cs = text'.toList →
      joinLineEnds (skipMark cs) = joinLineEnds (skipMark text.toList) := by
    intro cs hcs
    rw [hcs, h.joinLineEnds hreturn, (Returned.refl _).skipMark hmark, joinLineEnds_eq_self hreturn]
  constructor
  · rw [parse?, parse?, hread (h.skipMark hmark)]
  · rw [parse?, parse?, withMark, String.toList_ofList, hread rfl]

end WmConfig.Toml

namespace WmConfig.Settings

open Toml

/-- **Line ends and a byte order mark do not matter.** A text without carriage returns and without a
byte order mark gives the same settings and the same reports with a carriage return before each of
its line feeds, after a byte order mark, and with both, in any mixture of the two line ends. -/
theorem line_ends_ignored {text : String} (hreturn : ∀ c ∈ text.toList, c ≠ '\r')
    (hmark : text.toList.head? ≠ some '\ufeff') :
    parse (withReturns text) = parse text ∧ parse (withMark text) = parse text ∧
      ∀ text' : String, Returned text.toList text'.toList →
        parse text' = parse text ∧ parse (withMark text') = parse text := by
  have hparse : ∀ text' : String, Returned text.toList text'.toList →
      parse text' = parse text ∧ parse (withMark text') = parse text := by
    intro text' h
    obtain ⟨hreturned, hmarked⟩ := parse?_returned h hreturn hmark
    exact ⟨by rw [parse, parse, hreturned], by rw [parse, parse, hmarked]⟩
  exact ⟨(hparse _ (returned_withReturns text)).1, (hparse _ (.refl _)).2, hparse⟩

/-- The line ends stand after a comment and within a text over several lines here. -/
theorem line_ends_ignored_multiline :
    (parse (withMark (withReturns "[general] # -\nfont = '''\na\n'''\n"))).value.general.font =
      "a\n" := by
  have hparse := ((@line_ends_ignored "[general] # -\nfont = '''\na\n'''\n"
    (by simp) (by decide)).2.2 _ (returned_withReturns _)).2
  have hdocument : document? "[general] # -\nfont = '''\na\n'''\n" =
      some [("general", .table [("font", .string "a\n")])] := by decide +kernel
  rw [hparse, parse_of_document hdocument]
  exact (congrArg General.font (general_sections (keysOnce_of_document hdocument))).trans rfl

end WmConfig.Settings
