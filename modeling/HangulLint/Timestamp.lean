import HangulLint.Text.Glyph

/-!
# Timestamps

A second of local time as reports carry it in their names: year, month and day with minus signs
between, and the time of day in six digits. The year is written as it is, everything else in two
digits, so that from the year 1000 on the order of the texts is the order of time.
-/

namespace HangulLint

/-- A second of local time, in the years that four digits can tell. That the month has the day is
not asked for: names and their order do not depend on it. -/
structure Timestamp where
  year : Nat
  month : Nat
  day : Nat
  hour : Nat
  minute : Nat
  second : Nat
  year_bounds : 1 ≤ year ∧ year ≤ 9999 := by decide
  month_bounds : 1 ≤ month ∧ month ≤ 12 := by decide
  day_bounds : 1 ≤ day ∧ day ≤ 31 := by decide
  hour_lt : hour < 24 := by decide
  minute_lt : minute < 60 := by decide
  second_lt : second < 60 := by decide
deriving DecidableEq

namespace Timestamp

/-- The second that six numbers tell, if they tell one. -/
def ofNumbers? (year month day hour minute second : Nat) : Option Timestamp :=
  if h : ((1 ≤ year ∧ year ≤ 9999) ∧ (1 ≤ month ∧ month ≤ 12) ∧ (1 ≤ day ∧ day ≤ 31)) ∧
      hour < 24 ∧ minute < 60 ∧ second < 60 then
    some ⟨year, month, day, hour, minute, second, h.1.1, h.1.2.1, h.1.2.2, h.2.1, h.2.2.1,
      h.2.2.2⟩
  else none

/-- A number below a hundred in two digits. -/
def twoDigits (n : Nat) : List Char := [Nat.digitChar (n / 10), Nat.digitChar (n % 10)]

/-- How the text of a timestamp is made up, a percent sign and a letter for each part. -/
def format : String := "%Y-%m-%d_%H%M%S"

/-- The characters of a timestamp. -/
def chars (t : Timestamp) : List Char :=
  (toString t.year).toList ++ '-' :: twoDigits t.month ++ '-' :: twoDigits t.day
    ++ '_' :: twoDigits t.hour ++ twoDigits t.minute ++ twoDigits t.second

end Timestamp

end HangulLint
