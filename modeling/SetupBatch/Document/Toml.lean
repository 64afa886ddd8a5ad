import SetupBatch.Document.Toml.Entries
import SetupBatch.Document.Toml.Scalar
/-!
This module contains the TOML format, version 1.0: reading a tree from a text. Values are nested
less than eighty deep, and a dotted key has fewer than eighty parts.
-/

namespace SetupBatch.Document.Toml

open Scanner Text

/-- A list may be longer than the record that it stands for, a plain variant that is written as a
table carries nothing, and a date is like a table without known keys. -/
def dialect : Dialect where
  allowsExtra := true
  isUnit t := match t with
    | .table [] | .list [] => true
    | _ => false
  momentIsTable := true

def depthLimit : Nat := 80

def isBareKeyChar (c : Char) : Bool := c.isAlphanum || c == '_' || c == '-'

def keyPart : Scanner String := do
  match ← peek with
  | some '\x22' | some '\x27' => lineText
  | _ => return String.ofList (← takeWhile1 isBareKeyChar)

def key : Scanner (List String) := do
  let parts ← iterate (fun read => do
    skipBlanks
    let part ← keyPart
    skipBlanks
    if ← accept '.' then return .inl (part :: read) else return .inr (part :: read).reverse) []
  if parts.length < depthLimit then return parts else fail

def comment : Scanner Unit := do
  if ← accept '#' then skipWhile isPlain

def lineEnd : Scanner Unit := do
  skipBlanks
  comment
  unless (← peek).isNone do
    unless ← newline do fail

def skipLines : Scanner Unit :=
  iterate (fun () => do
    skipBlanks
    comment
    if ← newline then return .inl () else return .inr ()) ()

def items (item : Scanner Tree) : Scanner (List Tree) :=
  iterate (fun read => do
    skipLines
    if ← accept ']' then return .inr read.reverse
    let t ← item
    skipLines
    unless ← accept ',' do
      expect ']'
      return .inr (t :: read).reverse
    return .inl (t :: read)) []

def keyValue (value : Scanner Tree) : Scanner (List String × String × Tree) := do
  let parts ← key
  expect '='
  skipBlanks
  return (parts.dropLast, parts.getLast?.getD "", ← value)

def inlineEntries (value : Scanner Tree) : Scanner Entries := do
  skipBlanks
  if ← accept '\x7d' then return []
  iterate (fun read => do
    let (path, key, t) ← keyValue value
    match Entries.define read path key t with
    | none => fail
    | some read =>
      skipBlanks
      if ← accept ',' then return .inl read
      expect '\x7d'
      return .inr read) []

def value (depth : Nat) : Scanner Tree := do
  match ← peek, depth with
  | some '\x22', _ | some '\x27', _ => return .ofString (← text)
  | some 't', _ => expectText "true"; return .flag true
  | some 'f', _ => expectText "false"; return .flag false
  | some '[', depth + 1 =>
    let _ ← next
    return .list (← items (value depth))
  | some '\x7b', depth + 1 =>
    let _ ← next
    return .table (entriesToTree (← inlineEntries (value depth)))
  | some '[', 0 | some '\x7b', 0 => fail
  | _, _ => dateOrNumber

def line (o : Outline) : Scanner Outline := do
  let next ← match ← peek with
    | none | some '\n' | some '\r' | some '#' => pure (some o)
    | some '[' =>
      expect '['
      if ← accept '[' then
        let path ← key
        expectText "]]"
        pure (o.openElement path)
      else
        let path ← key
        expect ']'
        pure (o.openTable path)
    | some _ =>
      let (path, key, t) ← keyValue (value (depthLimit - 1))
      pure (o.define path key t)
  lineEnd
  match next with
  | none => fail
  | some o => return o

def document : Scanner Outline := do
  let _ ← accept '\ufeff'
  iterate (fun o => do
    skipBlanks
    match ← peek with
    | none => return .inr o
    | some _ => return .inl (← line o)) {}

def read? (s : String) : Option Tree := (document.read? s).bind (·.toTree?)

end SetupBatch.Document.Toml
