import SetupBatch.Calendar
import SetupBatch.Text.Blank
import SetupBatch.Text.Digits
import SetupBatch.Text.Scanner
/-!
This module contains instants: points in time to the nanosecond, read from a date, a time of day
and an offset from universal time, and written in universal time.
-/

namespace SetupBatch

/-- A point in time. A leap second is the second before it with a billion nanoseconds more. -/
structure Instant where
  seconds : Int
  nanos : Nat
  deriving DecidableEq, Inhabited

namespace Instant

open Scanner Text

def nanosPerSecond : Nat := 1000000000

def firstYear : Int := -262143

def lastYear : Int := 262142

def skipBlanks : Scanner Unit := skipWhile isBlank

def shortNumber : Scanner Nat := do
  skipBlanks
  let first ← takeExactly 1 isDigit
  let second ← attempt (takeExactly 1 isDigit)
  return digitsValue 10 (first ++ second.getD [])

def year : Scanner Int := do
  skipBlanks
  if ← accept '-' then return -(digitsValue 10 (← takeWhile1 isDigit) : Int)
  if ← accept '+' then return digitsValue 10 (← takeWhile1 isDigit)
  fun cs =>
    let digits := (cs.take 4).takeWhile isDigit
    if digits.isEmpty then none else some (digitsValue 10 digits, cs.drop digits.length)

def separator (c : Char) : Scanner Unit := do
  skipBlanks
  expect c

def fraction : Scanner Nat := do
  unless ← accept '.' do return 0
  let digits := (← takeWhile1 isDigit).take 9
  return digitsValue 10 digits * Nat.pow 10 (9 - digits.length)

def hasSign (c : Char) : Bool := c == '+' || c == '-' || c == '\u2212'

def offset : Scanner Int := do
  let cs ← attempt (takeExactly 3 Char.isAlpha)
  if (cs.getD []).map Char.toUpper = ['U', 'T', 'C'] then return 0
  if cs.isSome then fail
  if (← accept 'Z') || (← accept 'z') then return 0
  let sign ← takeExactly 1 hasSign
  let hours := digitsValue 10 (← takeExactly 2 isDigit)
  skipWhile fun c => c == ':' || isBlank c
  let minutes := digitsValue 10 (← takeExactly 2 isDigit)
  if 59 < minutes ∨ 23 < hours then fail
  let seconds : Int := hours * 3600 + minutes * 60
  return if sign = ['+'] then seconds else -seconds

def scan : Scanner Instant := do
  let year ← year
  separator '-'
  let month ← shortNumber
  separator '-'
  let day ← shortNumber
  unless (← accept 'T') || (← accept 't') || (← accept ' ') do fail
  let hour ← shortNumber
  separator ':'
  let minute ← shortNumber
  separator ':'
  let second ← shortNumber
  let nanos ← fraction
  skipBlanks
  let offset ← offset
  skipBlanks
  let date : Date := { year, month, day }
  unless firstYear ≤ year ∧ year ≤ lastYear ∧ date.isValid do fail
  unless hour ≤ 23 ∧ minute ≤ 59 ∧ second ≤ 60 do fail
  let leap := second = 60
  let seconds := date.toDays * 86400 + hour * 3600 + minute * 60 + (if leap then 59 else second)
    - offset
  let universal := (Date.ofDays (seconds / 86400)).year
  unless firstYear ≤ universal ∧ universal ≤ lastYear do fail
  return { seconds, nanos := if leap then nanos + nanosPerSecond else nanos }

def ofString? (s : String) : Option Instant := scan.read? s

def yearText (year : Int) : String :=
  if 0 ≤ year ∧ year ≤ 9999 then padded 4 year.toNat
  else (if year < 0 then "-" else "+") ++ padded 4 year.natAbs

def fractionText (nanos : Nat) : String :=
  if nanos = 0 then ""
  else if nanos % 1000000 = 0 then "." ++ padded 3 (nanos / 1000000)
  else if nanos % 1000 = 0 then "." ++ padded 6 (nanos / 1000)
  else "." ++ padded 9 nanos

def text (i : Instant) : String :=
  let date := Date.ofDays (i.seconds / 86400)
  let inDay := (i.seconds % 86400).toNat
  let second := inDay % 60 + i.nanos / nanosPerSecond
  yearText date.year ++ "-" ++ padded 2 date.month ++ "-" ++ padded 2 date.day ++ "T" ++
    padded 2 (inDay / 3600) ++ ":" ++ padded 2 (inDay / 60 % 60) ++ ":" ++ padded 2 second ++
    fractionText (i.nanos % nanosPerSecond) ++ "Z"

end Instant

end SetupBatch
