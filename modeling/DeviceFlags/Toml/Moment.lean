import DeviceFlags.Toml.Reader
import DeviceFlags.Toml.Value

/-!
# Reading dates and times

A date, a time of day with seconds, or a date and a time separated by a letter
or one space, then with an optional distance to UTC.  Every field has a fixed
number of digits and stays within its range, and the day exists in its month.
-/

namespace DeviceFlags.Toml

/-- Whether a year has a 29th of February. -/
def isLeapYear (year : Nat) : Bool :=
  year % 4 == 0 && (year % 100 != 0 || year % 400 == 0)

/-- The number of days of a month. -/
def daysIn (year month : Nat) : Nat :=
  if month = 2 then if isLeapYear year then 29 else 28
  else if month = 4 ∨ month = 6 ∨ month = 9 ∨ month = 11 then 30
  else 31

/-- A number written with a fixed count of decimal digits, within a range. -/
def fixedField (width least most : Nat) : Reader Nat := fun text =>
  let found := text.take width
  if found.length = width ∧ found.all Char.isDigit then
    let number := found.foldl (fun total c => 10 * total + (c.toNat - 0x30)) 0
    if least ≤ number ∧ number ≤ most then some (number, text.drop width) else none
  else
    none

/-- Reads a date. -/
def Date.read : Reader Date := fun text => do
  let (year, text) ← fixedField 4 0 9999 text
  let text ← expect '-' text
  let (month, text) ← fixedField 2 1 12 text
  let text ← expect '-' text
  let (day, text) ← fixedField 2 1 (daysIn year month) text
  return (⟨year, month, day⟩, text)

/-- The digits of a fraction of a second, if there is one. -/
def Time.fractionDigits : List Char → List Char × List Char
  | '.' :: rest =>
      let found := rest.takeWhile Char.isDigit
      if found.isEmpty then ([], '.' :: rest) else (found, rest.dropWhile Char.isDigit)
  | text => ([], text)

/-- Reads a time of day.  The sixtieth second is a leap second. -/
def Time.read : Reader Time := fun text => do
  let (hour, text) ← fixedField 2 0 23 text
  let text ← expect ':' text
  let (minute, text) ← fixedField 2 0 59 text
  let text ← expect ':' text
  let (second, text) ← fixedField 2 0 60 text
  let (fraction, text) := Time.fractionDigits text
  return (⟨hour, minute, second, fraction⟩, text)

namespace Moment

/-- A distance in hours and minutes. -/
def distance : Reader Int := fun text => do
  let (hours, text) ← fixedField 2 0 23 text
  let text ← expect ':' text
  let (minutes, text) ← fixedField 2 0 59 text
  return (hours * 60 + minutes, text)

/-- The distance to UTC in minutes. -/
def utcOffset : Reader Int
  | 'Z' :: rest => some (0, rest)
  | 'z' :: rest => some (0, rest)
  | '+' :: rest => distance rest
  | '-' :: rest => (distance rest).map fun (minutes, rest) => (-minutes, rest)
  | _ => none

/-- A time behind the mark that separates it from a date. -/
def timeBehindDate : Reader Time
  | 'T' :: rest => Time.read rest
  | 't' :: rest => Time.read rest
  | ' ' :: rest => Time.read rest
  | _ => none

/-- Reads a date, a time, or both. -/
def read : Reader Moment := fun text =>
  match Date.read text with
  | none => (Time.read text).map fun (time, rest) => (.timeOfDay time, rest)
  | some (date, rest) =>
      match timeBehindDate rest with
      | none => some (.day date, rest)
      | some (time, rest) =>
          match utcOffset rest with
          | none => some (.dayTime date time, rest)
          | some (minutes, rest) => some (.instant date time minutes, rest)

end Moment

end DeviceFlags.Toml
