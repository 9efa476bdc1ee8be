import WmConfig.Number.Numeral

/-! # Dates and times

The date forms of a document: a date, a time, both, or both with an offset. A value that occurs in
a document stands on the calendar, leap days included; `Datetime.text` is its canonical spelling. -/

namespace WmConfig.Toml

/-- A day of the calendar. -/
structure Date where
  /-- The year, four digits. -/
  year : Nat
  /-- The month, from one. -/
  month : Nat
  /-- The day of the month, from one. -/
  day : Nat
deriving DecidableEq, Repr

/-- A time of day. -/
structure Time where
  /-- The hour. -/
  hour : Nat
  /-- The minute. -/
  minute : Nat
  /-- The second; `60` is a leap second. -/
  second : Nat
  /-- The digits of the fraction of a second, at most nine. -/
  fraction : List Char
deriving DecidableEq, Repr

/-- The distance from universal time. -/
inductive Offset where
  /-- Universal time itself. -/
  | zulu
  /-- A number of minutes ahead of universal time. -/
  | minutes (ahead : Int)
deriving DecidableEq, Repr

/-- A date, a time, or both with an optional offset. -/
structure Datetime where
  /-- The day, if given. -/
  date : Option Date
  /-- The time of day, if given. -/
  time : Option Time
  /-- The offset, if given. -/
  offset : Option Offset
deriving DecidableEq, Repr

/-! ### Calendar -/

/-- Whether a year has a leap day. -/
def isLeap (year : Nat) : Bool := year % 4 == 0 && (year % 100 != 0 || year % 400 == 0)

/-- How many days a month has, `0` for what is no month. -/
def daysIn (year month : Nat) : Nat :=
  if month = 2 then if isLeap year then 29 else 28
  else if month = 4 ∨ month = 6 ∨ month = 9 ∨ month = 11 then 30
  else if 1 ≤ month ∧ month ≤ 12 then 31
  else 0

/-! ### Canonical text -/

/-- A number in decimal, filled up with zeros to `width` digits. -/
def padded (width n : Nat) : List Char :=
  let digits := Nat.toDigits 10 n
  List.replicate (width - digits.length) '0' ++ digits

/-- The digits of a fraction without the zeros at its end. -/
def trimZeros (digits : List Char) : List Char := (digits.reverse.dropWhile (· == '0')).reverse

/-- The text of a day. -/
def Date.text (d : Date) : List Char :=
  padded 4 d.year ++ '-' :: padded 2 d.month ++ '-' :: padded 2 d.day

/-- The text of a time of day. -/
def Time.text (t : Time) : List Char :=
  let fraction := trimZeros t.fraction
  padded 2 t.hour ++ ':' :: padded 2 t.minute ++ ':' :: padded 2 t.second ++
    (if fraction.isEmpty then [] else '.' :: fraction)

/-- The text of an offset. -/
def Offset.text : Offset → List Char
  | .zulu => ['Z']
  | .minutes m =>
    (if m < 0 then '-' else '+') :: padded 2 (m.natAbs / 60) ++ ':' :: padded 2 (m.natAbs % 60)

/-- The canonical text. -/
def Datetime.text (d : Datetime) : String :=
  String.ofList ((d.date.map Date.text).getD [] ++
    (if d.date.isSome && d.time.isSome then ['T'] else []) ++
    (d.time.map Time.text).getD [] ++ (d.offset.map Offset.text).getD [])

/-! ### Reading -/

/-- Two digits with a value in the range. -/
def twoDigits? (lo hi : Nat) (a b : Char) : Option Nat :=
  (Numeral.value? 10 [a, b]).filter fun n => lo ≤ n ∧ n ≤ hi

/-- A day at the front of a text. -/
def Date.read? : List Char → Option (Date × List Char)
  | y₁ :: y₂ :: y₃ :: y₄ :: '-' :: m₁ :: m₂ :: '-' :: d₁ :: d₂ :: rest => do
    let year ← Numeral.value? 10 [y₁, y₂, y₃, y₄]
    let month ← twoDigits? 1 12 m₁ m₂
    let day ← twoDigits? 1 (daysIn year month) d₁ d₂
    return (⟨year, month, day⟩, rest)
  | _ => none

/-- A fraction of a second, of which nine digits count, and what follows. -/
def readFraction? : List Char → Option (List Char × List Char)
  | '.' :: rest =>
    let digits := rest.takeWhile Char.isDigit
    if digits.isEmpty then none else some (digits.take 9, rest.dropWhile Char.isDigit)
  | rest => some ([], rest)

/-- How large the parts of a time may be. -/
structure Datetime.Limits where
  /-- The largest hour of the day. -/
  hour : Nat
  /-- The largest number of hours in an offset. -/
  offsetHour : Nat
  /-- The largest number of minutes in an offset, beside its hours. -/
  offsetMinute : Nat

/-- The limits of a date form written as a value. -/
def Datetime.Limits.value : Datetime.Limits := ⟨23, 23, 59⟩

/-- The limits of a date form spelled in a string: the end of the day has an hour of its own. -/
def Datetime.Limits.spelled : Datetime.Limits := ⟨24, 99, 99⟩

/-- A time of day at the front of a text. -/
def Time.read? (limits : Datetime.Limits) : List Char → Option (Time × List Char)
  | h₁ :: h₂ :: ':' :: m₁ :: m₂ :: ':' :: s₁ :: s₂ :: rest => do
    let hour ← twoDigits? 0 limits.hour h₁ h₂
    let minute ← twoDigits? 0 59 m₁ m₂
    let second ← twoDigits? 0 60 s₁ s₂
    let (fraction, rest) ← readFraction? rest
    return (⟨hour, minute, second, fraction⟩, rest)
  | _ => none

/-- An offset that takes up the whole text; it spans at most a day. -/
def Offset.whole? (limits : Datetime.Limits) : List Char → Option Offset
  | ['Z'] => some .zulu
  | ['z'] => some .zulu
  | [sign, h₁, h₂, ':', m₁, m₂] => do
    let hours ← twoDigits? 0 limits.offsetHour h₁ h₂
    let minutes ← twoDigits? 0 limits.offsetMinute m₁ m₂
    let total := hours * 60 + minutes
    if 24 * 60 < total then none
    else if sign = '+' then some (.minutes total)
    else if sign = '-' then some (.minutes (-total))
    else none
  | _ => none

namespace Datetime

/-- A time of day with an optional offset, after a day. -/
def timeOn? (limits : Limits) (date : Date) (cs : List Char) : Option Datetime := do
  let (time, rest) ← Time.read? limits cs
  if rest.isEmpty then return ⟨some date, some time, none⟩
  else return ⟨some date, some time, some (← Offset.whole? limits rest)⟩

/-- A date form that takes up the whole text. -/
def whole? (limits : Limits) (cs : List Char) : Option Datetime :=
  match Date.read? cs with
  | some (date, []) => some ⟨some date, none, none⟩
  | some (date, c :: rest) =>
    if c = 'T' ∨ c = 't' ∨ c = ' ' then timeOn? limits date rest else none
  | none =>
    match Time.read? limits cs with
    | some (time, []) => some ⟨none, some time, none⟩
    | _ => none

end Datetime

end WmConfig.Toml
