import Mathlib.Data.Nat.Digits.Defs
import Mathlib.Tactic.IntervalCases

/-!
# Broken-down time

The fields of `struct tm`, within their ranges, and the forms in which they are
written: numbers with two digits, years, and the names of weekdays and months.
-/

namespace WarheadBot

namespace Calendar

/-- The fields of `struct tm`; the year is the one of the calendar. -/
structure Tm where
  sec : Fin 62
  min : Fin 60
  hour : Fin 24
  mday : Nat
  mdayRange : 1 ≤ mday ∧ mday ≤ 31
  mon : Fin 12
  year : Int
  wday : Fin 7
  deriving DecidableEq, Repr

def Tm.hour12 (tm : Tm) : Nat :=
  if tm.hour.val % 12 = 0 then 12 else tm.hour.val % 12

/-- The last two digits of a number. -/
def write2 (value : Nat) : List Char :=
  [Nat.digitChar (value / 10 % 10), Nat.digitChar (value % 10)]

theorem isDigit_of_mem_write2 {value : Nat} {char : Char} (inside : char ∈ write2 value) :
    char.isDigit = true := by
  have digits : ∀ digit < 10, (Nat.digitChar digit).isDigit = true := by decide
  simp only [write2, List.mem_cons, List.not_mem_nil, or_false] at inside
  rcases inside with rfl | rfl
  · exact digits _ (Nat.mod_lt _ (by decide))
  · exact digits _ (Nat.mod_lt _ (by decide))

/-- A year has four digits at least. -/
def writeYear (year : Int) : List Char :=
  if 0 ≤ year ∧ year < 10000 then
    write2 (year.toNat / 100) ++ write2 (year.toNat % 100)
  else
    let digits := Nat.toDigits 10 year.natAbs
    let width := if year < 0 then 3 else 4
    (if year < 0 then ['-'] else []) ++ List.replicate (width - digits.length) '0' ++ digits

def wdayFullName (tm : Tm) : String :=
  ["Sunday", "Monday", "Tuesday", "Wednesday", "Thursday", "Friday", "Saturday"].get tm.wday

def wdayShortName (tm : Tm) : String :=
  ["Sun", "Mon", "Tue", "Wed", "Thu", "Fri", "Sat"].get tm.wday

def monFullName (tm : Tm) : String :=
  ["January", "February", "March", "April", "May", "June", "July", "August", "September",
    "October", "November", "December"].get tm.mon

def monShortName (tm : Tm) : String :=
  ["Jan", "Feb", "Mar", "Apr", "May", "Jun", "Jul", "Aug", "Sep", "Oct", "Nov", "Dec"].get tm.mon

/-- One o'clock in the afternoon of the first day of a year. -/
def newYear (year : Int) : Tm where
  sec := 0
  min := 0
  hour := 13
  mday := 1
  mdayRange := by decide
  mon := 0
  year := year
  wday := 0

end Calendar

end WarheadBot
