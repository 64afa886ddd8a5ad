import SetupBatch.Calendar
import SetupBatch.Document.Double
import SetupBatch.Document.Tree
import SetupBatch.Text.Digits
import SetupBatch.Text.Scanner
/-!
This module contains the plain values of TOML: texts in four kinds of quotes, integers in four
bases, floats, dates and times. Digits may have single underscores between them.
-/

namespace SetupBatch.Document.Toml

open Scanner Text

def isBlank (c : Char) : Bool := c == ' ' || c == '\t'

def isPlain (c : Char) : Bool := c == '\t' || (' ' ≤ c && c ≤ '~') || '\x7f' < c

def skipBlanks : Scanner Unit := skipWhile isBlank

def newline : Scanner Bool := do
  if ← accept '\n' then return true
  acceptText "\r\n"

def coded (width : Nat) : Scanner Char := do
  let code := digitsValue 16 (← takeExactly width (isDigitOf 16))
  if code.isValidChar then return Char.ofNat code else fail

def escaped : Scanner Char := do
  match ← next with
  | 'b' => return '\x08'
  | 't' => return '\t'
  | 'n' => return '\n'
  | 'f' => return '\x0c'
  | 'r' => return '\r'
  | '\x22' => return '\x22'
  | '\\' => return '\\'
  | 'u' => coded 4
  | 'U' => coded 8
  | _ => fail

def restOfLine (mark : Char) (escapes : Bool) : Scanner String :=
  iterate (fun read => do
    let c ← next
    if c = mark then return .inr (String.ofList read.reverse)
    if c = '\\' ∧ escapes then return .inl ((← escaped) :: read)
    if isPlain c then return .inl (c :: read) else fail) []

def continuation : Scanner Unit := do
  expect '\\'
  skipBlanks
  unless ← newline do fail
  iterate (fun () => do
    skipBlanks
    if ← newline then return .inl () else return .inr ()) ()

def restOfLines (mark : Char) (escapes : Bool) : Scanner String := do
  let _ ← newline
  iterate (fun read => do
    let marks ← takeWhile (· == mark)
    if 5 < marks.length then fail
    if 3 ≤ marks.length then return .inr (String.ofList (read.reverse ++ marks.drop 3))
    if ¬ marks.isEmpty then return .inl (marks ++ read)
    if ← newline then return .inl ('\n' :: read)
    if escapes then
      if (← attempt continuation).isSome then return .inl read
      if ← accept '\\' then return .inl ((← escaped) :: read)
    let c ← next
    if isPlain c then return .inl (c :: read) else fail) []

def lineText : Scanner String := do
  if ← accept '\x22' then restOfLine '\x22' true
  else
    expect '\x27'
    restOfLine '\x27' false

def text : Scanner String := do
  if ← acceptText "\"\"\"" then restOfLines '\x22' true
  else if ← acceptText "'''" then restOfLines '\x27' false
  else lineText

def digits (base : Nat) : Scanner (List Char) := do
  let first ← takeWhile1 (isDigitOf base)
  iterate (fun read => do
    if ← accept '_' then return .inl (read ++ (← takeWhile1 (isDigitOf base)))
    return .inr read) first

def integer (i : Int) : Scanner Tree :=
  if -(maxInt64 + 1) ≤ i ∧ i ≤ maxInt64 then return .integer i else fail

/-- A number in decimal without its sign: an integer, or a float with a fraction, an exponent, or
both. Zeros before other digits are for exponents only. -/
def decimal (negative : Bool) : Scanner Tree := do
  let whole ← digits 10
  if 1 < whole.length ∧ whole.head? = some '0' then fail
  let fraction ← if ← accept '.' then some <$> digits 10 else pure none
  let exponent ← if (← accept 'e') || (← accept 'E') then
      let down ← accept '-'
      unless down do
        let _ ← accept '+'
      let e := digitsValue 10 (← digits 10)
      pure (some (if down then -(e : Int) else (e : Int)))
    else pure none
  match fraction, exponent with
  | none, none =>
    let m := digitsValue 10 whole
    integer (if negative then -m else m)
  | _, _ =>
    let fraction := fraction.getD []
    let m := digitsValue 10 (whole ++ fraction)
    if negative ∨ isFiniteDouble m (exponent.getD 0 - fraction.length) then return .decimal true
    else fail

def number : Scanner Tree := do
  if ← acceptText "0x" then return ← integer (digitsValue 16 (← digits 16))
  if ← acceptText "0o" then return ← integer (digitsValue 8 (← digits 8))
  if ← acceptText "0b" then return ← integer (digitsValue 2 (← digits 2))
  let negative ← accept '-'
  unless negative do
    let _ ← accept '+'
  if (← acceptText "inf") || (← acceptText "nan") then return .decimal true
  decimal negative

def fixed (width least greatest : Nat) : Scanner Nat := do
  let n := digitsValue 10 (← takeExactly width isDigit)
  if least ≤ n ∧ n ≤ greatest then return n else fail

def time : Scanner Unit := do
  let _ ← fixed 2 0 23
  expect ':'
  let _ ← fixed 2 0 59
  expect ':'
  let _ ← fixed 2 0 60
  if ← accept '.' then
    let _ ← takeWhile1 isDigit

def offset : Scanner Unit := do
  if (← accept 'Z') || (← accept 'z') then return
  if (← accept '+') || (← accept '-') then
    let _ ← fixed 2 0 23
    expect ':'
    let _ ← fixed 2 0 59

def comesNext (width : Nat) (mark : Char) : Scanner Bool := do
  let ahead ← attempt (do
    let _ ← takeExactly width isDigit
    expect mark)
  return ahead.isSome

def ahead {α : Type} (p : Scanner α) : Scanner α := fun cs => (p.run cs).map fun (a, _) => (a, cs)

def date : Scanner Tree := do
  let year ← fixed 4 0 9999
  expect '-'
  let month ← fixed 2 1 12
  expect '-'
  let day ← fixed 2 1 31
  unless ({ year, month, day } : Date).isValid do fail
  let timed ← ahead do
    if (← accept 'T') || (← accept 't') then return true
    if ← accept ' ' then comesNext 2 ':' else return false
  if timed then
    let _ ← next
    time
    offset
  return .moment

def dateOrNumber : Scanner Tree := do
  if ← ahead (comesNext 4 '-') then date
  else if ← ahead (comesNext 2 ':') then
    time
    return .moment
  else number

end SetupBatch.Document.Toml
