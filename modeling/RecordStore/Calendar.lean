import RecordStore.Number.Text

namespace RecordStore

/-!
# Dates and times of day

Dates of the proleptic Gregorian calendar, times of day to the nanosecond, and both together. A
leap second is held as the second before it with `nanosecond` at or above 10⁹, and is written as the
second after that one. Any second can be followed by one, but only after second 59 is it told from
other times, for it is written as second 60.
-/

def isLeapYear (year : Int) : Bool :=
  year % 4 == 0 && (year % 100 != 0 || year % 400 == 0)

def daysInMonth (year : Int) : Nat → Nat
  | 2 => if isLeapYear year then 29 else 28
  | 4 | 6 | 9 | 11 => 30
  | _ => 31

structure Date where
  year : Int
  month : Nat
  day : Nat
  year_mem : -262143 ≤ year ∧ year ≤ 262142
  month_mem : 1 ≤ month ∧ month ≤ 12
  day_mem : 1 ≤ day ∧ day ≤ daysInMonth year month
deriving DecidableEq

structure Time where
  hour : Nat
  minute : Nat
  second : Nat
  nanosecond : Nat
  hour_lt : hour < 24
  minute_lt : minute < 60
  second_lt : second < 60
  nanosecond_lt : nanosecond < 2000000000
deriving DecidableEq

structure DateTime where
  date : Date
  time : Time
deriving DecidableEq

def Date.of? (year : Int) (month day : Nat) : Option Date :=
  if hy : -262143 ≤ year ∧ year ≤ 262142 then
    if hm : 1 ≤ month ∧ month ≤ 12 then
      if hd : 1 ≤ day ∧ day ≤ daysInMonth year month then some ⟨year, month, day, hy, hm, hd⟩
      else none
    else none
  else none

/-- The time of day with these parts. A leap second can only be named at the end of a minute. -/
def Time.of? (hour minute second nanosecond : Nat) : Option Time :=
  if hh : hour < 24 then
    if hm : minute < 60 then
      if hs : second < 60 then
        if hn : nanosecond < 2000000000 then
          if 1000000000 ≤ nanosecond ∧ second ≠ 59 then none
          else some ⟨hour, minute, second, nanosecond, hh, hm, hs, hn⟩
        else none
      else none
    else none
  else none

def padded (width n : Nat) : List Char :=
  padLeft width (Nat.toDigits 10 n)

/-- A year outside 0 to 9999 carries its sign. -/
def yearText (year : Int) : List Char :=
  let sign := if year < 0 then ['-'] else if 9999 < year then ['+'] else []
  sign ++ padded 4 year.natAbs

def Date.chars (d : Date) : List Char :=
  yearText d.year ++ '-' :: padded 2 d.month ++ '-' :: padded 2 d.day

/-- The fewest of no, three, six or nine digits that are exact. -/
def fractionText (nanos : Nat) : List Char :=
  if nanos = 0 then []
  else if nanos % 1000000 = 0 then '.' :: padded 3 (nanos / 1000000)
  else if nanos % 1000 = 0 then '.' :: padded 6 (nanos / 1000)
  else '.' :: padded 9 nanos

def Time.chars (t : Time) : List Char :=
  padded 2 t.hour ++ ':' :: padded 2 t.minute
    ++ ':' :: padded 2 (t.second + t.nanosecond / 1000000000)
    ++ fractionText (t.nanosecond % 1000000000)

/-- A date and a time of day on either side of `between`. -/
def DateTime.chars (between : Char) (dt : DateTime) : List Char :=
  dt.date.chars ++ between :: dt.time.chars

/-- The date `days` days after 1 March of year 0. -/
def Date.ofMarchDays? (days : Int) : Option Date :=
  let era := days / 146097
  let ofEra := (days % 146097).toNat
  let yearOfEra := (ofEra - ofEra / 1460 + ofEra / 36524 - ofEra / 146096) / 365
  let ofYear := ofEra - (365 * yearOfEra + yearOfEra / 4 - yearOfEra / 100)
  let marchMonth := (5 * ofYear + 2) / 153
  let day := ofYear - (153 * marchMonth + 2) / 5 + 1
  let month := if marchMonth < 10 then marchMonth + 3 else marchMonth - 9
  Date.of? (yearOfEra + era * 400 + if month ≤ 2 then 1 else 0) month day

/-- The instant `seconds` after the start of 1970. -/
def DateTime.ofUnixSeconds? (seconds : Int) : Option DateTime := do
  let date ← Date.ofMarchDays? (seconds / 86400 + 719468)
  let ofDay := (seconds % 86400).toNat
  let time ← Time.of? (ofDay / 3600) (ofDay / 60 % 60) (ofDay % 60) 0
  pure ⟨date, time⟩

end RecordStore
