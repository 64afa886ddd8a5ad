import SetupBatch.Text.Digits
import SetupBatch.Text.Scanner
import SetupBatch.Word
/-!
This module contains the positions that stand at the end of the messages of a reader, and how they
are shown: with plain numbers, and not at all on line zero, which no text has.
-/

namespace SetupBatch.Text

structure Position where
  line : Nat
  column : Nat
  deriving DecidableEq, Inhabited

namespace Position

open Scanner

def mark : List Char := " at line ".toList

def separator : String := " column "

def text (p : Position) : String :=
  if p.line = 0 then "" else String.ofList mark ++ s!"{p.line}" ++ separator ++ s!"{p.column}"

def number : Scanner Nat := do
  let n := digitsValue 10 (← takeWhile1 isDigit)
  if n ≤ maxWord64 then return n else fail

def read? (s : String) : Option Position :=
  (do
    let line ← number
    expectText separator
    return ⟨line, ← number⟩ : Scanner Position).read? s

def splitLast? : List Char → Option (List Char × List Char)
  | [] => none
  | c :: cs =>
    match splitLast? cs with
    | some (before, after) => some (c :: before, after)
    | none => if mark.isPrefixOf (c :: cs) then some ([], (c :: cs).drop mark.length) else none

/-- Shows the position at the end of a message anew. A message without one stays as it is. -/
def normalize (message : String) : String :=
  match splitLast? message.toList with
  | none => message
  | some (before, after) =>
    match read? (String.ofList after) with
    | none => message
    | some p => String.ofList before ++ p.text

end Position

end SetupBatch.Text
