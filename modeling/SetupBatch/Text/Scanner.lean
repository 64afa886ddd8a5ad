/-!
This module contains scanners, which read a value from the front of a text and leave the rest, or
fail.
-/

namespace SetupBatch

abbrev Scanner := StateT (List Char) Option

namespace Scanner

variable {α β σ : Type}

def read? (p : Scanner α) (s : String) : Option α :=
  match p.run s.toList with
  | some (a, []) => some a
  | _ => none

def fail : Scanner α := fun _ => none

def peek : Scanner (Option Char) := fun cs => some (cs.head?, cs)

def next : Scanner Char
  | [] => none
  | c :: rest => some (c, rest)

def accept (c : Char) : Scanner Bool
  | [] => some (false, [])
  | d :: rest => if d = c then some (true, rest) else some (false, d :: rest)

def expect (c : Char) : Scanner Unit := do
  unless ← accept c do fail

def acceptText (s : String) : Scanner Bool := fun cs =>
  if s.toList.isPrefixOf cs then some (true, cs.drop s.length) else some (false, cs)

def expectText (s : String) : Scanner Unit := do
  unless ← acceptText s do fail

def takeWhile (p : Char → Bool) : Scanner (List Char) := fun cs =>
  some (cs.takeWhile p, cs.dropWhile p)

def takeWhile1 (p : Char → Bool) : Scanner (List Char) := do
  let cs ← takeWhile p
  if cs.isEmpty then fail else return cs

def skipWhile (p : Char → Bool) : Scanner Unit := do
  let _ ← takeWhile p

def takeExactly (n : Nat) (p : Char → Bool) : Scanner (List Char) := fun cs =>
  let taken := cs.take n
  if taken.length = n ∧ taken.all p then some (taken, cs.drop n) else none

def attempt (p : Scanner α) : Scanner (Option α) := fun cs =>
  match p.run cs with
  | some (a, rest) => some (some a, rest)
  | none => some (none, cs)

/-- Repeats a step until it gives a result. A step that gives none takes a character, so that the
text itself bounds the number of steps. -/
def iterate (step : σ → Scanner (σ ⊕ β)) (s : σ) : Scanner β := fun cs => go cs s cs
where
  go : List Char → σ → Scanner β
    | [], s => do
      match ← step s with
      | .inl _ => fail
      | .inr b => return b
    | _ :: bound, s => do
      match ← step s with
      | .inl s => go bound s
      | .inr b => return b

end Scanner

end SetupBatch
