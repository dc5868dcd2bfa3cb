/-!
# Times as text

Times are whole seconds since the start of 2024 in universal time.  Their text is that of the
Gregorian calendar, extended backwards: `2024-01-01 00:00:00`.  It begins on 24 November of the year
-4713 at noon and ends with the year 9999; a time outside it has no text.

Dates are reached by stepping from day to day, so that the order of days is the order of steps.
-/

set_option autoImplicit false

namespace Microblog

/-- A date of the Gregorian calendar. -/
structure Date where
  year : Int
  month : Nat
  day : Nat
deriving DecidableEq, Repr

namespace Date

/-- The first day of the count. -/
def epoch : Date := ⟨2024, 1, 1⟩

/-- Whether a year has a 29 February. -/
def isLeap (year : Int) : Bool :=
  year % 4 == 0 && (year % 100 != 0 || year % 400 == 0)

/-- The number of days of a month. -/
def monthLength (year : Int) (month : Nat) : Nat :=
  if month = 2 then (if isLeap year then 29 else 28)
  else if month = 4 ∨ month = 6 ∨ month = 9 ∨ month = 11 then 30
  else 31

/-- The day after. -/
def next (d : Date) : Date :=
  if d.day < monthLength d.year d.month then { d with day := d.day + 1 }
  else if d.month < 12 then ⟨d.year, d.month + 1, 1⟩
  else ⟨d.year + 1, 1, 1⟩

/-- The day before. -/
def previous (d : Date) : Date :=
  if 1 < d.day then { d with day := d.day - 1 }
  else if 1 < d.month then ⟨d.year, d.month - 1, monthLength d.year (d.month - 1)⟩
  else ⟨d.year - 1, 12, 31⟩

/-- `n` days further, by the step `f`. -/
def walk (f : Date → Date) : Nat → Date → Date
  | 0, d => d
  | n + 1, d => walk f n (f d)

/-- The date `n` days after the first day of the count. -/
def ofDays : Int → Date
  | .ofNat n => walk next n epoch
  | .negSucc n => walk previous (n + 1) epoch

end Date

/-- `n` in decimal with at least `width` digits. -/
def padded (width n : Nat) : List Char :=
  let ds := Nat.toDigits 10 n
  List.replicate (width - ds.length) '0' ++ ds

/-- The text of a date: year, month and day. -/
def Date.text (d : Date) : List Char :=
  (if d.year < 0 then ['-'] else []) ++ padded 4 d.year.natAbs ++ '-' :: padded 2 d.month ++
    '-' :: padded 2 d.day

namespace Timestamp

/-- The first second that has a text: noon on 24 November of the year -4713. -/
def first : Int := -212570827200

/-- The last second that has a text: the last one of the year 9999. -/
def last : Int := 251698233599

/-- The text of a time of day, given in seconds. -/
def clockText (n : Nat) : List Char :=
  padded 2 (n / 3600) ++ ':' :: padded 2 (n / 60 % 60) ++ ':' :: padded 2 (n % 60)

/-- The text of a time within the calendar. -/
def text (seconds : Int) : String :=
  .ofList ((Date.ofDays (seconds / 86400)).text ++ ' ' :: clockText (seconds % 86400).toNat)

/-- The text of a time, which it has only within the calendar. -/
def text? (seconds : Int) : Option String :=
  if first ≤ seconds ∧ seconds ≤ last then some (text seconds) else none

end Timestamp

end Microblog
