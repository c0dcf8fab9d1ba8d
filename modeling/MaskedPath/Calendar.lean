namespace MaskedPath

structure Date where
  year : Int
  month : Nat
  day : Nat
deriving DecidableEq, Repr

namespace Calendar

def isLeap (year : Nat) : Bool := year % 4 = 0 && (year % 100 ≠ 0 || year % 400 = 0)

def daysIn (year month : Nat) : Nat :=
  if month = 2 then (if isLeap year then 29 else 28)
  else if month = 4 ∨ month = 6 ∨ month = 9 ∨ month = 11 then 30
  else 31

def cycleDays : Nat := 146097

def cycleYears : Nat := 400

def epochDay : Int := 719468

/-- The year that a day of a cycle falls in, where years begin in March, so that a leap day ends its
year. The corrections are the leap days before the day. -/
def yearOfCycle (day : Nat) : Nat := (day - day / 1460 + day / 36524 - day / 146096) / 365

def firstDay (year : Nat) : Nat := 365 * year + year / 4 - year / 100

def firstDayOfMonth (month : Nat) : Nat := (153 * month + 2) / 5

def dateAfter (days : Int) : Date :=
  let shifted := days + epochDay
  let cycle := shifted.fdiv cycleDays
  let day := (shifted.fmod cycleDays).toNat
  let year := yearOfCycle day
  let dayOfYear := day - firstDay year
  let month := (5 * dayOfYear + 2) / 153
  let isNextYear := 10 ≤ month
  ⟨cycle * cycleYears + year + (if isNextYear then 1 else 0),
    if isNextYear then month - 9 else month + 3,
    dayOfYear - firstDayOfMonth month + 1⟩

end Calendar

end MaskedPath
