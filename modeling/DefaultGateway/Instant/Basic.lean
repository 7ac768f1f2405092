/-!
Instants of universal time by the civil calendar, to the nanosecond.
-/

namespace DefaultGateway

namespace Instant

def isLeapYear (year : Int) : Bool :=
  year % 4 == 0 && (year % 100 != 0 || year % 400 == 0)

def daysInMonth (year : Int) (month : Nat) : Nat :=
  match month with
  | 1 | 3 | 5 | 7 | 8 | 10 | 12 => 31
  | 4 | 6 | 9 | 11 => 30
  | 2 => if isLeapYear year then 29 else 28
  | _ => 0

/-- The years that a date may have. -/
def isYear (year : Int) : Bool := -262143 ≤ year && year ≤ 262142

def isDate (year : Int) (month day : Nat) : Bool :=
  isYear year && 1 ≤ day && day ≤ daysInMonth year month

/-- A minute may have a sixty-first second. -/
def isTime (hour minute second nanosecond : Nat) : Bool :=
  hour < 24 && minute < 60 && second ≤ 60 && nanosecond < 1000000000

end Instant

structure Instant where
  year : Int
  month : Nat
  day : Nat
  hour : Nat
  minute : Nat
  second : Nat
  nanosecond : Nat
  dateValid : Instant.isDate year month day = true
  timeValid : Instant.isTime hour minute second nanosecond = true
  deriving DecidableEq, Repr

namespace Instant

def epoch : Instant := ⟨1970, 1, 1, 0, 0, 0, 0, by decide, by decide⟩

instance : Inhabited Instant := ⟨epoch⟩

def ofFields? (year : Int) (month day hour minute second nanosecond : Nat) : Option Instant :=
  if date : isDate year month day = true then
    if time : isTime hour minute second nanosecond = true then
      some ⟨year, month, day, hour, minute, second, nanosecond, date, time⟩
    else none
  else none

def dayBefore (year : Int) (month day : Nat) : Int × Nat × Nat :=
  if 1 < day then (year, month, day - 1)
  else if 1 < month then (year, month - 1, daysInMonth year (month - 1))
  else (year - 1, 12, 31)

def dayAfter (year : Int) (month day : Nat) : Int × Nat × Nat :=
  if day < daysInMonth year month then (year, month, day + 1)
  else if month < 12 then (year, month + 1, 1)
  else (year + 1, 1, 1)

/-- The instant that clocks `offset` minutes ahead of universal time show by these fields. -/
def ofLocal? (year : Int) (month day hour minute second nanosecond : Nat) (offset : Int) :
    Option Instant :=
  if !isDate year month day then none
  else
    let minutes : Int := hour * 60 + minute - offset
    let (year, month, day) :=
      if minutes < 0 then dayBefore year month day
      else if minutes ≥ 1440 then dayAfter year month day
      else (year, month, day)
    let minutes := (minutes % 1440).toNat
    ofFields? year month day (minutes / 60) (minutes % 60) second nanosecond

end Instant

end DefaultGateway
