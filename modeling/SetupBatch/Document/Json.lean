import SetupBatch.Document.Double
import SetupBatch.Document.Tree
import SetupBatch.Text.Digits
import SetupBatch.Text.Scanner
/-!
This module contains the JSON format: reading a tree from a text, and writing a tree over several
indented lines.
-/

namespace SetupBatch.Document.Json

open Scanner Text

/-- A list must not be longer than the record that it stands for, and a plain variant that is
written as a table carries null. -/
def dialect : Dialect where
  allowsExtra := false
  isUnit t := match t with
    | .null => true
    | _ => false
  momentIsTable := false

def isBlank (c : Char) : Bool := c == ' ' || c == '\n' || c == '\t' || c == '\r'

def appendDigits (m : Nat) : List Char → Nat × Nat
  | [] => (m, 0)
  | c :: cs =>
    let longer := 10 * m + digitsValue 10 [c]
    if longer ≤ maxWord64 then appendDigits longer cs else (m, cs.length + 1)

/-- A number: no sign but a minus, no zero before other digits, and digits on both sides of a
point. Of a decimal number only the digits that fit in a word count. -/
def number : Scanner Tree := do
  let negative ← accept '-'
  let whole ← takeWhile1 isDigit
  if 1 < whole.length ∧ whole.head? = some '0' then fail
  let fraction ← if ← accept '.' then some <$> takeWhile1 isDigit else pure none
  let exponent ← if (← accept 'e') || (← accept 'E') then
      let down ← if ← accept '-' then pure true else do
        let _ ← accept '+'
        pure false
      let e := digitsValue 10 (← takeWhile1 isDigit)
      pure (some (if down then -(e : Int) else (e : Int)))
    else pure none
  let (m, left) := appendDigits 0 whole
  if left = 0 ∧ fraction.isNone ∧ exponent.isNone then
    if negative then
      if 0 < m ∧ m ≤ maxInt64 + 1 then return .integer (-m)
    else return .integer m
  let fraction := fraction.getD []
  let (m, ignored) := appendDigits m fraction
  return .decimal (isFiniteProduct m (exponent.getD 0 + left + ignored - fraction.length))

def unit : Scanner Nat := do
  return digitsValue 16 (← takeExactly 4 (isDigitOf 16))

def lowHalf : Scanner Nat := do
  expectText "\\u"
  let low ← unit
  if 0xDC00 ≤ low ∧ low ≤ 0xDFFF then return low else fail

def coded : Scanner (Option Char) := do
  let code ← unit
  if 0xD800 ≤ code ∧ code ≤ 0xDBFF then
    match ← attempt lowHalf with
    | some low => return some (Char.ofNat (0x10000 + (code - 0xD800) * 0x400 + (low - 0xDC00)))
    | none => return none
  else if 0xDC00 ≤ code ∧ code ≤ 0xDFFF then return none
  else return some (Char.ofNat code)

def escaped : Scanner (Option Char) := do
  match ← next with
  | '\x22' => return some '\x22'
  | '\\' => return some '\\'
  | '/' => return some '/'
  | 'b' => return some '\x08'
  | 'f' => return some '\x0c'
  | 'n' => return some '\n'
  | 'r' => return some '\r'
  | 't' => return some '\t'
  | 'u' => coded
  | _ => fail

def text : Scanner (Option String) := do
  expect '\x22'
  iterate (σ := Option (List Char)) (fun read => do
    match ← next with
    | '\x22' => return .inr (read.map fun cs => String.ofList cs.reverse)
    | '\\' =>
      let c ← escaped
      return .inl (do return (← c) :: (← read))
    | c => if c.toNat < 0x20 then fail else return .inl (read.map (c :: ·))) (some [])

def items {α : Type} (closing : Char) (item : Scanner α) : Scanner (List α) := do
  skipWhile isBlank
  if ← accept closing then return []
  iterate (fun read => do
    let a ← item
    skipWhile isBlank
    if ← accept ',' then return .inl (a :: read)
    expect closing
    return .inr (a :: read).reverse) []

def value : Nat → Scanner Tree
  | 0 => fail
  | depth + 1 => do
    skipWhile isBlank
    match ← peek with
    | some '\x7b' =>
      let _ ← next
      return .table (← items '\x7d' do
        skipWhile isBlank
        let key ← text
        skipWhile isBlank
        expect ':'
        return (key, ← value depth))
    | some '[' =>
      let _ ← next
      return .list (← items ']' (value depth))
    | some '\x22' => return .text (← text)
    | some 't' => expectText "true"; return .flag true
    | some 'f' => expectText "false"; return .flag false
    | some 'n' => expectText "null"; return .null
    | _ => number

def read? (s : String) : Option Tree :=
  (do
    let t ← value (s.length + 1)
    skipWhile isBlank
    return t : Scanner Tree).read? s

def escapeChar (c : Char) : String :=
  match c with
  | '\x22' => "\\\""
  | '\\' => "\\\\"
  | '\x08' => "\\b"
  | '\x0c' => "\\f"
  | '\n' => "\\n"
  | '\r' => "\\r"
  | '\t' => "\\t"
  | c =>
    if c.toNat < 0x20 then
      "\\u00" ++ String.ofList [Nat.digitChar (c.toNat / 16), Nat.digitChar (c.toNat % 16)]
    else c.toString

def writeText (s : String) : String := "\"" ++ String.join (s.toList.map escapeChar) ++ "\""

def writeItems (opening closing : String) (indent : Nat) (items : List String) : String :=
  if items.isEmpty then opening ++ closing
  else
    let line (n : Nat) := "\n" ++ String.ofList (List.replicate (2 * n) ' ')
    opening ++ line (indent + 1) ++ (("," ++ line (indent + 1)).intercalate items) ++
      line indent ++ closing

mutual

def write (indent : Nat) : Tree → String
  | .null => "null"
  | .flag b => if b then "true" else "false"
  | .integer i => toString i
  | .decimal _ | .moment => "null"
  | .text s => writeText (s.getD "")
  | .list items => writeItems "[" "]" indent (writeAll (indent + 1) items)
  | .table entries => writeItems "\x7b" "\x7d" indent (writeEntries (indent + 1) entries)

def writeAll (indent : Nat) : List Tree → List String
  | [] => []
  | t :: rest => write indent t :: writeAll indent rest

def writeEntries (indent : Nat) : List (Option String × Tree) → List String
  | [] => []
  | (key, t) :: rest =>
    (writeText (key.getD "") ++ ": " ++ write indent t) :: writeEntries indent rest

end

end SetupBatch.Document.Json
