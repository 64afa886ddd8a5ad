import SetupBatch.Word
/-!
This module contains document trees, which is what is read from a JSON or TOML text before anything
is known about its meaning, and the ways to read a value of a kind from a tree. Two formats differ
in a few points, which are collected in a `Dialect`.
-/

namespace SetupBatch.Document

/-- A document. A text or key that is not made of characters is kept as `none`; it only matters if
it is read. -/
inductive Tree where
  | null
  | flag (b : Bool)
  | integer (i : Int)
  /-- A number that is not written as an integer; it may be too large for any format. -/
  | decimal (finite : Bool)
  | text (s : Option String)
  | moment
  | list (items : List Tree)
  | table (entries : List (Option String × Tree))
  deriving Inhabited

structure Dialect where
  allowsExtra : Bool
  isUnit : Tree → Bool
  momentIsTable : Bool

inductive Slot where
  | value (t : Tree)
  | absent
  | beyond
  deriving Inhabited

namespace Slot

variable {α : Type}

def required (read : Tree → Option α) : Slot → Option α
  | .value t => read t
  | .absent | .beyond => none

def withDefault (default : α) (read : Tree → Option α) : Slot → Option α
  | .value t => read t
  | .absent | .beyond => some default

end Slot

namespace Tree

variable {α : Type}

def ofString (s : String) : Tree := .text (some s)

def ofNat (n : Nat) : Tree := .integer n

def record (entries : List (String × Tree)) : Tree :=
  .table (entries.map fun (key, t) => (some key, t))

def ofOption (write : α → Tree) : Option α → Tree
  | some a => write a
  | none => .null

def string? : Tree → Option String
  | .text s => s
  | _ => none

def flag? : Tree → Option Bool
  | .flag b => some b
  | _ => none

def bounded? (bound : Nat) : Tree → Option { n : Nat // n ≤ bound }
  | .integer (.ofNat n) => if h : n ≤ bound then some ⟨n, h⟩ else none
  | _ => none

def nat? (bound : Nat) (t : Tree) : Option Nat := (t.bounded? bound).map (·.val)

def word32? : Tree → Option Nat := nat? maxWord32

def word64? : Tree → Option Nat := nat? maxWord64

def list? (read : Tree → Option α) : Tree → Option (List α)
  | .list items => items.mapM read
  | _ => none

def option? (read : Tree → Option α) : Tree → Option (Option α)
  | .null => some none
  | t => (read t).map some

def name? (d : Dialect) (ofName? : String → Option α) : Tree → Option α
  | .text (some s) => ofName? s
  | .table [(some s, t)] => if d.isUnit t then ofName? s else none
  | _ => none

def fields? (d : Dialect) (names : List String) : Tree → Option (List Slot)
  | .table entries => do
    let entries ← entries.mapM fun (key, t) => key.map (·, t)
    names.mapM fun name =>
      match entries.filter (·.1 == name) with
      | [] => some .absent
      | [(_, t)] => some (.value t)
      | _ => none
  | .list items =>
    if items.length ≤ names.length ∨ d.allowsExtra then
      some ((List.range names.length).map fun i => (items[i]?).elim .beyond .value)
    else none
  | .moment => if d.momentIsTable then some (names.map fun _ => .absent) else none
  | _ => none

def optionalField? (read : Tree → Option α) : Slot → Option (Option α)
  | .value t => t.option? read
  | .absent => some none
  | .beyond => none

mutual

def isKeepable (depth : Nat) : Tree → Bool
  | .decimal finite => finite
  | .text s => s.isSome
  | .list items => 0 < depth && areKeepable (depth - 1) items
  | .table entries => 0 < depth && entriesKeepable (depth - 1) entries
  | _ => true

def areKeepable (depth : Nat) : List Tree → Bool
  | [] => true
  | t :: rest => t.isKeepable depth && areKeepable depth rest

def entriesKeepable (depth : Nat) : List (Option String × Tree) → Bool
  | [] => true
  | (key, t) :: rest => key.isSome && t.isKeepable depth && entriesKeepable depth rest

end

/-- A variant that names itself under a key, or as the first item of a list: its name, and the
fields that go with it. The whole is kept until the name is found, so all of it must be keepable. -/
def variant? (key : String) (t : Tree) : Option (String × Tree) :=
  if t.isKeepable 127 then
    match t with
    | .table entries =>
      match entries.filter (·.1 == some key) with
      | [(_, .text (some name))] => some (name, .table (entries.filter (·.1 != some key)))
      | _ => none
    | .list (.text (some name) :: items) => some (name, .list items)
    | _ => none
  else none

end Tree

end SetupBatch.Document
