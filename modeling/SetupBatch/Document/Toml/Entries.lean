import SetupBatch.Document.Tree
/-!
This module contains tables of TOML while they are read. A table may be opened by a header, be
implied by the header of a table inside it, or come from a dotted key; a document may not define one
of them twice or in two ways.
-/

namespace SetupBatch.Document.Toml

inductive Kind where
  | header
  | implied
  | dotted
  deriving DecidableEq, Inhabited

/-- What stands under a key: a finished value, a table that may still grow, or the tables of a list,
of which the first here, the last in the document, may still grow. -/
inductive Node where
  | value (t : Tree)
  | table (kind : Kind) (entries : List (String × Node))
  | tables (elements : List (List (String × Node)))
  deriving Inhabited

abbrev Entries := List (String × Node)

namespace Entries

def put (key : String) (node : Node) : Entries → Entries
  | [] => [(key, node)]
  | (k, n) :: rest => if k = key then (key, node) :: rest else (k, n) :: put key node rest

def remove (key : String) (entries : Entries) : Entries := entries.filter (·.1 != key)

/-- Changes the table at a path, and makes the tables on the way that are not there yet. A path of a
dotted key does not lead through tables that have a header of their own. -/
def update {α : Type} (dotted : Bool) (change : Kind → Entries → Option (α × Entries)) :
    List String → Kind → Entries → Option (α × Entries)
  | [], kind, entries => change kind entries
  | key :: path, _, entries =>
    match entries.lookup key with
    | none => do
      let kind := if dotted then Kind.dotted else .implied
      let (a, inner) ← update dotted change path kind []
      return (a, entries.put key (.table kind inner))
    | some (.table kind inner) =>
      if dotted ∧ kind = .header then none
      else do
        let (a, inner) ← update dotted change path kind inner
        return (a, entries.put key (.table kind inner))
    | some (.tables (last :: earlier)) => do
      let (a, inner) ← update dotted change path .header last
      return (a, entries.put key (.tables (inner :: earlier)))
    | some (.value _) | some (.tables []) => none

/-- Defines a key, which must be new, under a path of dotted keys. Only tables that come from dotted
keys get entries in this way, and the table itself only without a path. -/
def define (entries : Entries) (path : List String) (key : String) (t : Tree) : Option Entries :=
  (update true (fun kind entries =>
    if (kind = .dotted) ↔ path.isEmpty then none
    else if (entries.lookup key).isSome then none
    else some ((), entries.put key (.value t))) path .header entries).map (·.2)

end Entries

mutual

def Node.toTree : Node → Tree
  | .value t => t
  | .table _ entries => .table (entriesToTree entries)
  | .tables elements => .list (elementsToTree elements).reverse

def entriesToTree : Entries → List (Option String × Tree)
  | [] => []
  | (key, node) :: rest => (some key, node.toTree) :: entriesToTree rest

def elementsToTree : List Entries → List Tree
  | [] => []
  | entries :: rest => .table (entriesToTree entries) :: elementsToTree rest

end

structure Outline where
  root : Entries := []
  current : Entries := []
  path : List String := []
  isElement : Bool := false

namespace Outline

def close (o : Outline) : Option Entries :=
  match o.path.getLast? with
  | none => some o.current
  | some key =>
    (Entries.update false (fun _ entries =>
      match entries.lookup key, o.isElement with
      | none, false => some ((), entries.put key (.table .header o.current))
      | none, true => some ((), entries.put key (.tables [o.current]))
      | some (.tables elements), true =>
        some ((), entries.put key (.tables (o.current :: elements)))
      | _, _ => none) o.path.dropLast .header o.root).map (·.2)

def openTable (o : Outline) (path : List String) : Option Outline := do
  let key ← path.getLast?
  let (current, root) ← Entries.update false (fun _ entries =>
    match entries.lookup key with
    | none => some ([], entries)
    | some (.table .implied inner) => some (inner, entries.remove key)
    | _ => none) path.dropLast .header (← o.close)
  return { root, current, path, isElement := false }

def openElement (o : Outline) (path : List String) : Option Outline := do
  let key ← path.getLast?
  let (_, root) ← Entries.update false (fun _ entries =>
    match entries.lookup key with
    | none => some ((), entries.put key (.tables []))
    | some (.tables _) => some ((), entries)
    | _ => none) path.dropLast .header (← o.close)
  return { root, current := [], path, isElement := true }

def define (o : Outline) (path : List String) (key : String) (t : Tree) : Option Outline :=
  (o.current.define path key t).map fun current => { o with current }

def toTree? (o : Outline) : Option Tree := o.close.map fun root => .table (entriesToTree root)

end Outline

end SetupBatch.Document.Toml
