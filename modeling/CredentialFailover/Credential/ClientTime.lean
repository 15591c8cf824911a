/-
Client times: whole seconds of universal time in the years 0000 to 9999.

A time is given by its calendar fields, which must name an existing day of the proleptic Gregorian calendar and a time of
day without leap second. It is written `YYYY-MM-DDTHH:MM:SSZ` with every field at full width; reading accepts that form and
no other. `unix` counts seconds from the beginning of 1970.
-/
import CredentialFailover.Text.Digits

namespace CredentialFailover

namespace Calendar

/-- a year with 366 days -/
def isLeap (year : Nat) : Bool := year % 4 == 0 && (year % 100 != 0 || year % 400 == 0)

/-- the number of days of a month, the first month being 1 -/
def daysInMonth (year month : Nat) : Nat :=
  match month with
  | 2 => if isLeap year then 29 else 28
  | 4 => 30
  | 6 => 30
  | 9 => 30
  | 11 => 30
  | _ => 31

/-- the number of leap years before a year, from year 0 on -/
def leapYearsBefore (year : Nat) : Nat := (year + 3) / 4 - (year + 99) / 100 + (year + 399) / 400

/-- the number of days from the beginning of year 0 to the beginning of a year -/
def daysBeforeYear (year : Nat) : Nat := 365 * year + leapYearsBefore year

/-- the number of days from the beginning of a year to the beginning of a month -/
def daysBeforeMonth (year : Nat) : Nat → Nat
  | 0 => 0
  | 1 => 0
  | month + 2 => daysBeforeMonth year (month + 1) + daysInMonth year (month + 1)

/-- the number of days from the beginning of year 0 to the beginning of 1970 -/
def epochDay : Nat := 719528

end Calendar

/-- the fields name a day of the calendar and a second of it -/
def ClientTime.Exists (year month day hour minute second : Nat) : Prop :=
  year ≤ 9999 ∧ 1 ≤ month ∧ month ≤ 12 ∧ 1 ≤ day ∧ day ≤ Calendar.daysInMonth year month ∧
    hour ≤ 23 ∧ minute ≤ 59 ∧ second ≤ 59

instance (year month day hour minute second : Nat) :
    Decidable (ClientTime.Exists year month day hour minute second) := by
  unfold ClientTime.Exists
  infer_instance

/-- a whole second of universal time -/
structure ClientTime where
  year : Nat
  month : Nat
  day : Nat
  hour : Nat
  minute : Nat
  second : Nat
  existing : ClientTime.Exists year month day hour minute second
  deriving DecidableEq

namespace ClientTime

/-- a number of two digits -/
def two (n : Nat) : List Char := [Nat.digitChar (n / 10 % 10), Nat.digitChar (n % 10)]

/-- a number of four digits -/
def four (n : Nat) : List Char := two (n / 100) ++ two n

/-- the characters of a time -/
def chars (t : ClientTime) : List Char :=
  four t.year ++ '-' :: two t.month ++ '-' :: two t.day ++ 'T' :: two t.hour ++ ':' :: two t.minute ++
    ':' :: two t.second ++ ['Z']

/-- a time in writing -/
def text (t : ClientTime) : String := String.ofList t.chars

/-- the time that the fields name, if they name one -/
def ofFields? (year month day hour minute second : Nat) : Option ClientTime :=
  if h : Exists year month day hour minute second then some ⟨year, month, day, hour, minute, second, h⟩ else none

/-- the time that a text writes, if it writes one -/
def parse? (raw : String) : Option ClientTime := do
  let (year, cs) ← Text.digits? 4 0 raw.toList
  let cs ← Text.expect? '-' cs
  let (month, cs) ← Text.digits? 2 0 cs
  let cs ← Text.expect? '-' cs
  let (day, cs) ← Text.digits? 2 0 cs
  let cs ← Text.expect? 'T' cs
  let (hour, cs) ← Text.digits? 2 0 cs
  let cs ← Text.expect? ':' cs
  let (minute, cs) ← Text.digits? 2 0 cs
  let cs ← Text.expect? ':' cs
  let (second, cs) ← Text.digits? 2 0 cs
  let cs ← Text.expect? 'Z' cs
  if cs.isEmpty then ofFields? year month day hour minute second else none

/-- the number of days from the beginning of year 0 -/
def dayNumber (t : ClientTime) : Nat :=
  Calendar.daysBeforeYear t.year + Calendar.daysBeforeMonth t.year t.month + (t.day - 1)

/-- the number of seconds from the beginning of the day -/
def secondOfDay (t : ClientTime) : Nat := t.hour * 3600 + t.minute * 60 + t.second

/-- the number of seconds from the beginning of 1970, negative before it -/
def unix (t : ClientTime) : Int := ((t.dayNumber : Int) - (Calendar.epochDay : Int)) * 86400 + (t.secondOfDay : Int)

end ClientTime

end CredentialFailover
