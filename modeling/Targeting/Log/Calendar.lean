/-!
# Calendar

Seconds since the start of 1970 as a date and time of the Gregorian calendar,
in universal time.
-/
namespace Targeting.Log

structure DateTime where
  year : Int
  month : Nat
  day : Nat
  hour : Nat
  minute : Nat
  second : Nat
deriving DecidableEq, Repr

/-- Days from the first of March of year 0 to the start of 1970. -/
def epochDays : Int := 719468

/-- The days of 400 years. -/
def cycleDays : Nat := 146097

/-- The date of a day counted from the start of 1970. Years are counted from March, so that the
leap day comes last. -/
def dateOfDay (day : Int) : Int × Nat × Nat :=
  let shifted := day + epochDays
  let cycle := shifted / cycleDays
  let dayOfCycle := (shifted % cycleDays).toNat
  -- The leap days before this day are taken out, so that every year has 365 days.
  let yearOfCycle :=
    (dayOfCycle - dayOfCycle / 1460 + dayOfCycle / 36524 - dayOfCycle / 146096) / 365
  let dayOfYear := dayOfCycle - (365 * yearOfCycle + yearOfCycle / 4 - yearOfCycle / 100)
  -- Five months from March have 153 days, and so do the next five.
  let monthFromMarch := (5 * dayOfYear + 2) / 153
  let dayOfMonth := dayOfYear - (153 * monthFromMarch + 2) / 5 + 1
  let month := if monthFromMarch < 10 then monthFromMarch + 3 else monthFromMarch - 9
  let year := cycle * 400 + yearOfCycle
  (if month ≤ 2 then year + 1 else year, month, dayOfMonth)

def DateTime.ofSeconds (seconds : Int) : DateTime :=
  let (year, month, day) := dateOfDay (seconds / 86400)
  let rest := (seconds % 86400).toNat
  ⟨year, month, day, rest / 3600, rest / 60 % 60, rest % 60⟩

def twoDigits (n : Nat) : String := if n < 10 then "0" ++ toString n else toString n

def DateTime.text (t : DateTime) : String :=
  toString t.year ++ "-" ++ twoDigits t.month ++ "-" ++ twoDigits t.day ++ " " ++ twoDigits t.hour
    ++ ":" ++ twoDigits t.minute ++ ":" ++ twoDigits t.second

end Targeting.Log
