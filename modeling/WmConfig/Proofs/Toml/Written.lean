import WmConfig.Proofs.Toml.Spelling

/-! # Written documents

How values, key lines and headers are written, line by line, given apart from the readers; and what
the readers of keys, texts, words and headers make of it. -/

namespace WmConfig.Toml

open Syntax

/-! ### What is written -/

/-- A key that needs no quotes. -/
def Bare (key : String) : Prop := key.toList ≠ [] ∧ ∀ c ∈ key.toList, isBare c = true

instance (key : String) : Decidable (Bare key) :=
  decidable_of_iff (key.toList ≠ [] ∧ key.toList.all isBare = true) (by rw [List.all_eq_true, Bare])

/-- A path of keys that need no quotes, not longer than a path may be. -/
def BarePath (parents : List String) (key : String) : Prop :=
  (∀ k ∈ parents, Bare k) ∧ Bare key ∧ parents.length < maxPath

theorem Bare.barePath {key : String} (h : Bare key) : BarePath [] key := ⟨by simp, h, by decide⟩

theorem Bare.barePath_below {parent key : String} (hparent : Bare parent) (h : Bare key) :
    BarePath [parent] key := ⟨by simpa using hparent, h, by simp [maxPath]⟩

/-- The keys of a path with dots between them. -/
def pathText : List String → String → List Char
  | [], key => key.toList
  | parent :: parents, key => parent.toList ++ '.' :: pathText parents key

/-- Texts between double quotes, with commas between them, up to the closing bracket. -/
inductive TextsWritten : List String → List Char → Prop
  | nil : TextsWritten [] [']']
  | one {s : String} {spelling : List Char} (h : Quoted.Spells s.toList spelling) :
      TextsWritten [s] ('\x22' :: (spelling ++ ['\x22', ']']))
  | cons {s s' : String} {ss : List String} {spelling cs : List Char}
      (h : Quoted.Spells s.toList spelling) (hs : TextsWritten (s' :: ss) cs) :
      TextsWritten (s :: s' :: ss) ('\x22' :: (spelling ++ '\x22' :: ',' :: ' ' :: cs))

/-- How a value is written: a text between double quotes, a whole number in decimal, a truth value
as a word, a floating-point number as any word that stands for it, and texts as an array. -/
inductive Value.Written : Value → List Char → Prop
  | string {s : String} {spelling : List Char} (h : Quoted.Spells s.toList spelling) :
      Written (.string s) ('\x22' :: (spelling ++ ['\x22']))
  | natural {n : Nat} (hn : n < 0x8000000000000000) : Written (.integer n) (Nat.toDigits 10 n)
  | boolean (b : Bool) : Written (.boolean b) (if b then "true" else "false").toList
  | float {x : Binary64} {word : List Char} (hword : ∀ c ∈ word, Scalar.isWordChar c = true)
      (h : Scalar.ofWord? word = some (.float x)) : Written (.float x) word
  | texts {ss : List String} {cs : List Char} (h : TextsWritten ss cs) :
      Written (.array (ss.map .string)) ('[' :: cs)

/-- How a document is written: each expression on a line of its own, empty lines anywhere. -/
inductive Written : List Expression → List Char → Prop
  | nil : Written [] []
  | emptyLine {es : List Expression} {cs : List Char} (h : Written es cs) : Written es ('\n' :: cs)
  | keyLine {parents : List String} {key : String} {value : Value} {spelling : List Char}
      {es : List Expression} {cs : List Char} (hpath : BarePath parents key)
      (hvalue : value.Written spelling) (h : Written es cs) :
      Written (.keyLine ⟨parents, key, value⟩ :: es)
        (pathText parents key ++ ' ' :: '=' :: ' ' :: (spelling ++ '\n' :: cs))
  | table {parents : List String} {key : String} {es : List Expression} {cs : List Char}
      (hpath : BarePath parents key) (h : Written es cs) :
      Written (.header ⟨parents, key, false⟩ :: es)
        ('[' :: (pathText parents key ++ ']' :: '\n' :: cs))
  | listTable {parents : List String} {key : String} {es : List Expression} {cs : List Char}
      (hpath : BarePath parents key) (h : Written es cs) :
      Written (.header ⟨parents, key, true⟩ :: es)
        ('[' :: '[' :: (pathText parents key ++ ']' :: ']' :: '\n' :: cs))

/-! ### Keys -/

theorem skipBlanks_eq_self {cs : List Char} (h : ∀ c, cs.head? = some c → c ≠ ' ' ∧ c ≠ '\t') :
    skipBlanks cs = cs := by
  cases cs with
  | nil => rfl
  | cons c cs =>
    obtain ⟨hspace, htab⟩ := h c rfl
    rw [skipBlanks, List.dropWhile_cons_of_neg (by simp [hspace, htab])]

theorem skipBlanks_blank (cs : List Char) : skipBlanks (' ' :: cs) = skipBlanks cs := rfl

/-- What a character of a bare key is not. -/
theorem isBare_ne {c : Char} (hc : isBare c = true) {d : Char} (hd : isBare d = false) : c ≠ d := by
  rintro rfl
  rw [hc] at hd
  cases hd

theorem Bare.exists_cons {key : String} (h : Bare key) :
    ∃ c cs, key.toList = c :: cs ∧ isBare c = true := by
  obtain ⟨hne, hall⟩ := h
  cases hkey : key.toList with
  | nil => exact absurd hkey hne
  | cons c cs => exact ⟨c, cs, rfl, hall c (by rw [hkey]; exact List.mem_cons_self)⟩

theorem exists_cons_pathText {parents : List String} {key : String} (h : BarePath parents key) :
    ∃ c cs, pathText parents key = c :: cs ∧ isBare c = true := by
  cases parents with
  | nil => exact h.2.1.exists_cons
  | cons parent parents =>
    obtain ⟨c, cs, hparent, hc⟩ := (h.1 parent List.mem_cons_self).exists_cons
    exact ⟨c, cs ++ '.' :: pathText parents key, by rw [pathText, hparent]; rfl, hc⟩

theorem simpleKey?_bare {key : String} (h : Bare key) {rest : List Char}
    (hrest : ∀ c, rest.head? = some c → isBare c = false) :
    simpleKey? (key.toList ++ rest) = some (key, rest) := by
  obtain ⟨c, cs, hkey, hc⟩ := h.exists_cons
  have htake : (key.toList ++ rest).takeWhile isBare = key.toList := by
    rw [List.takeWhile_append_of_pos h.2]
    cases rest with
    | nil => simp
    | cons c rest => simp [hrest c rfl]
  have hdrop : (key.toList ++ rest).dropWhile isBare = rest := by
    rw [List.dropWhile_append_of_pos h.2]
    cases rest with
    | nil => rfl
    | cons c rest => simp [hrest c rfl]
  rw [simpleKey?.eq_def]
  split
  · next heq =>
    rw [hkey] at heq
    exact absurd (List.cons.inj heq).1 (isBare_ne hc rfl)
  · next heq =>
    rw [hkey] at heq
    exact absurd (List.cons.inj heq).1 (isBare_ne hc rfl)
  · simp only [htake, hdrop]
    rw [if_neg (by simp [h.1]), String.ofList_toList]

/-- A path is read up to what cannot belong to it. -/
theorem keyPath?_bare : ∀ {parents : List String} {key : String} {limit : Nat},
    (∀ k ∈ parents, Bare k) → Bare key → parents.length < limit → ∀ {rest : List Char},
      (∀ c, rest.head? = some c → isBare c = false) → (skipBlanks rest).head? ≠ some '.' →
        keyPath? limit (pathText parents key ++ rest) = some ((parents, key), skipBlanks rest)
  | [], key, limit + 1, _, hkey, _, rest, hrest, hdot => by
    obtain ⟨c, cs, hcs, hc⟩ := hkey.exists_cons
    have hblank : skipBlanks (key.toList ++ rest) = key.toList ++ rest := by
      rw [hcs]
      exact skipBlanks_eq_self (by rintro _ ⟨⟩; exact ⟨isBare_ne hc rfl, isBare_ne hc rfl⟩)
    rw [keyPath?, pathText, hblank, simpleKey?_bare hkey hrest]
    simp only [Option.bind_eq_bind, Option.bind_some]
    split
    · next heq =>
      rw [heq] at hdot
      exact absurd rfl hdot
    · rfl
  | parent :: parents, key, limit + 1, hparents, hkey, hlength, rest, hrest, hdot => by
    have hparent := hparents parent List.mem_cons_self
    obtain ⟨c, cs, hcs, hc⟩ := hparent.exists_cons
    have hblank : skipBlanks (parent.toList ++ '.' :: (pathText parents key ++ rest)) =
        parent.toList ++ '.' :: (pathText parents key ++ rest) := by
      rw [hcs]
      exact skipBlanks_eq_self (by rintro _ ⟨⟩; exact ⟨isBare_ne hc rfl, isBare_ne hc rfl⟩)
    have ih := keyPath?_bare (fun k hk => hparents k (List.mem_cons_of_mem _ hk)) hkey
      (Nat.lt_of_succ_lt_succ hlength) hrest hdot
    rw [keyPath?, pathText, List.append_assoc, List.cons_append, hblank,
      simpleKey?_bare hparent (by rintro _ ⟨⟩; rfl)]
    simp only [Option.bind_eq_bind, Option.bind_some]
    rw [skipBlanks_eq_self (by rintro _ ⟨⟩; decide)]
    simp only [ih, Option.bind_some]
    rfl

/-! ### Values -/

theorem skipLines_eq_self {c : Char} {cs : List Char}
    (h : c ≠ '\n' ∧ c ≠ '#' ∧ c ≠ ' ' ∧ c ≠ '\t') : skipLines false (c :: cs) = c :: cs := by
  rw [skipLines, if_neg h.1, if_neg (by decide), if_neg h.2.1, if_neg (by simp [h.2.2])]

/-- A text between double quotes is read as a value. -/
theorem value?_string {s : String} {spelling : List Char} (h : Quoted.Spells s.toList spelling)
    {rest : List Char} (hrest : rest.head? ≠ some '\x22') (depth : Nat) :
    value? depth ('\x22' :: (spelling ++ '\x22' :: rest)) = some (.string s, rest) := by
  have hquote : ∀ cs, value? depth ('\x22' :: cs) =
      (Quoted.read? ('\x22' :: cs)).map fun read => (.string (String.ofList read.1), read.2) := by
    intro cs
    cases depth <;> rfl
  rw [hquote, Quoted.read?_spells h hrest, Option.map_some]
  simp only [String.ofList_toList]

/-- What may follow a value: the end of the line, a comma or a closing bracket. -/
def Ends (rest : List Char) : Prop :=
  ∀ c, rest.head? = some c → Scalar.isWordChar c = false ∧ c ≠ '\x22'

/-- A word is read as a value. -/
theorem value?_word {word rest : List Char} {v : Value}
    (hword : ∀ c ∈ word, Scalar.isWordChar c = true) (h : Scalar.ofWord? word = some v)
    (hv : ∀ d, v ≠ .datetime d) (hrest : Ends rest) (depth : Nat) :
    value? depth (word ++ rest) = some (v, rest) := by
  have hread := Scalar.read?_word hword (fun c hc => (hrest c hc).1) h hv
  cases word with
  | nil => cases h
  | cons c cs =>
    have hc : ∀ d, Scalar.isWordChar d = false → c ≠ d := by
      rintro d hd rfl
      rw [hword c List.mem_cons_self] at hd
      cases hd
    rw [value?.eq_def]
    split
    · next heq => exact absurd (List.cons.inj heq).1 (hc _ rfl)
    · next heq => exact absurd (List.cons.inj heq).1 (hc _ rfl)
    · split
      · next heq => exact absurd (List.cons.inj heq).1 (hc _ rfl)
      · next heq => exact absurd (List.cons.inj heq).1 (hc _ rfl)
      · exact hread

theorem isWordChar_of_isDigit {c : Char} (hc : c.isDigit = true) : Scalar.isWordChar c = true := by
  simp [Scalar.isWordChar, Char.isAlphanum, hc]

theorem isWordChar_boolean (b : Bool) :
    ∀ c ∈ (if b then "true" else "false").toList, Scalar.isWordChar c = true :=
  List.all_eq_true.mp (by cases b <;> rfl)

/-! ### Lines -/

theorem ends_newline (cs : List Char) : Ends ('\n' :: cs) := by
  rintro _ ⟨⟩
  decide

/-- A path and the equals sign after it, up to the value. -/
theorem assigned?_written {parents : List String} {key : String} (hpath : BarePath parents key)
    {cs : List Char} (hcs : ∀ c, cs.head? = some c → c ≠ ' ' ∧ c ≠ '\t') :
    assigned? (pathText parents key ++ ' ' :: '=' :: ' ' :: cs) = some ((parents, key), cs) := by
  have hblank : skipBlanks (' ' :: cs) = cs := skipBlanks_eq_self hcs
  rw [assigned?, keyPath?_bare hpath.1 hpath.2.1 hpath.2.2 (by rintro _ ⟨⟩; rfl)
    (by rw [skipBlanks_blank, skipBlanks_eq_self (by rintro _ ⟨⟩; decide)]; simp),
    skipBlanks_blank, skipBlanks_eq_self (by rintro _ ⟨⟩; decide)]
  simp only [hblank]

/-- A header is read as it is. -/
theorem header?_written {parents : List String} {key : String} (hpath : BarePath parents key)
    (cs : List Char) :
    header? (pathText parents key ++ ']' :: '\n' :: cs) = some (⟨parents, key, false⟩, cs) ∧
      header? ('[' :: (pathText parents key ++ ']' :: ']' :: '\n' :: cs)) =
        some (⟨parents, key, true⟩, cs) := by
  have hread : ∀ rest, keyPath? maxPath (pathText parents key ++ ']' :: rest) =
      some ((parents, key), ']' :: rest) := by
    intro rest
    rw [keyPath?_bare hpath.1 hpath.2.1 hpath.2.2 (by rintro _ ⟨⟩; rfl)
      (by rw [skipBlanks_eq_self (by rintro _ ⟨⟩; decide)]; simp),
      skipBlanks_eq_self (by rintro _ ⟨⟩; decide)]
  obtain ⟨c, cs', hcons, hc⟩ := exists_cons_pathText hpath
  constructor
  · rw [header?.eq_def]
    split
    · next heq =>
      rw [hcons] at heq
      exact absurd (List.cons.inj heq).1 (isBare_ne hc rfl)
    · rw [hread]
      rfl
  · rw [header?, hread]
    rfl

/-! ### Carriage returns -/

/-- No carriage return stands in a spelling, since it would have to be escaped. -/
theorem Quoted.Spells.ne_return {text spelling : List Char} (h : Spells text spelling) :
    ∀ c ∈ spelling, c ≠ '\r' := by
  have hdigits : ∀ {digits : List Char} {n : Nat}, Numeral.value? 16 digits = some n →
      ∀ c ∈ digits, c ≠ '\r' := by
    rintro digits n hvalue c hc rfl
    exact absurd (isSome_digitOf?_of_value? hvalue _ hc) (by decide)
  induction h with
  | nil => simp
  | plain htext _ _ _ ih =>
    refine List.forall_mem_cons.mpr ⟨?_, ih⟩
    rintro rfl
    cases htext
  | letter he _ ih =>
    have hescape : ∀ p ∈ escapes, p.1 ≠ '\r' := by decide
    exact List.forall_mem_cons.mpr ⟨by decide, List.forall_mem_cons.mpr ⟨hescape _ he, ih⟩⟩
  | four hc _ ih =>
    have hall := hdigits hc
    simp only [List.forall_mem_cons] at hall ⊢
    exact ⟨by decide, by decide, hall.1, hall.2.1, hall.2.2.1, hall.2.2.2.1, ih⟩
  | eight hc _ ih =>
    have hall := hdigits hc
    simp only [List.forall_mem_cons] at hall ⊢
    obtain ⟨h₁, h₂, h₃, h₄, h₅, h₆, h₇, h₈, -⟩ := hall
    exact ⟨by decide, by decide, h₁, h₂, h₃, h₄, h₅, h₆, h₇, h₈, ih⟩

theorem ne_return_pathText : ∀ {parents : List String} {key : String}, (∀ k ∈ parents, Bare k) →
    Bare key → ∀ c ∈ pathText parents key, c ≠ '\r'
  | [], _, _, hkey => fun c hc => isBare_ne (hkey.2 c hc) rfl
  | parent :: parents, key, hparents, hkey => by
    have hparent := (hparents parent List.mem_cons_self).2
    simp only [pathText, List.forall_mem_append, List.forall_mem_cons]
    exact ⟨fun c hc => isBare_ne (hparent c hc) rfl, by decide,
      ne_return_pathText (fun k hk => hparents k (List.mem_cons_of_mem _ hk)) hkey⟩

theorem joinLineEnds_eq_self : ∀ {cs : List Char}, (∀ c ∈ cs, c ≠ '\r') → joinLineEnds cs = cs
  | [], _ => rfl
  | c :: cs, h => by
    have hc := h c List.mem_cons_self
    rw [joinLineEnds.eq_3 _ _ (fun _ heq => absurd heq hc),
      joinLineEnds_eq_self fun c hc => h c (List.mem_cons_of_mem _ hc)]

end WmConfig.Toml
