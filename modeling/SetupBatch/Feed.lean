import SetupBatch.Fault
import SetupBatch.Instant
import SetupBatch.Outcome
/-!
This module contains the progress feed: a list of lines in which those of running tasks stand
last. Whatever settles is inserted at the boundary just before them, so settled lines stay in the
order in which they settled.
-/

namespace SetupBatch

structure Line where
  id : LineId
  text : String
  severity : Severity
  running : Bool
  task : Option Nat
  created : Instant := default
  deriving DecidableEq, Inhabited

/-- The lines, how many of them are running, and the number of the next line. The clock is read
whenever a line is made, and shows `clock n` when that is the line of number `n`. -/
structure Feed where
  lines : List Line := []
  live : Nat := 0
  next : Nat := 0
  clock : Nat → Instant := fun _ => default
  deriving Inhabited

namespace Feed

inductive Change where
  | inserted (position : Nat) (line : Line)
  | removed (position : Nat) (id : LineId)
  deriving DecidableEq

def boundary (f : Feed) : Nat := f.lines.length - f.live

def settled (f : Feed) : List Line := f.lines.take f.boundary

def running (f : Feed) : List Line := f.lines.drop f.boundary

def isConsistent (f : Feed) : Bool :=
  f.settled.all (! ·.running) && f.running.all (·.running)

def insertSettled (f : Feed) (line : Line) : Change × Feed :=
  (.inserted f.boundary line, { f with lines := f.lines.insertIdx f.boundary line })

def fresh (f : Feed) (text : String) (severity : Severity) (running : Bool) (task : Option Nat) :
    Line :=
  { id := ⟨f.next⟩, text, severity, running, task, created := f.clock f.next }

def begin (f : Feed) (text : String) (task : Nat) : LineId × Change × Feed :=
  let line := f.fresh text .info true (some task)
  (line.id, .inserted f.lines.length line,
    { f with lines := f.lines ++ [line], live := f.live + 1, next := f.next + 1 })

def add (f : Feed) (text : String) (severity : Severity) : Change × Feed :=
  { f with next := f.next + 1 }.insertSettled (f.fresh text severity false none)

/-- Moves a running line to the boundary with the severity of the outcome, and inserts a second
line after it that tells how the task ended. -/
def settle (f : Feed) (id : LineId) (o : Outcome) (text : String) :
    Except Breach (List Change × Feed) :=
  match f.lines.findIdx? (·.id == id) with
  | none => .error (.lineMissing id)
  | some position =>
    match f.lines[position]? with
    | none => .error (.lineMissing id)
    | some line =>
      if line.running then
        let f₁ := { f with lines := f.lines.eraseIdx position, live := f.live - 1 }
        let (moved, f₂) := f₁.insertSettled { line with running := false, severity := o.severity }
        let (told, f₃) := { f₂ with next := f₂.next + 1 }.insertSettled
          (f₂.fresh text o.severity false line.task)
        .ok ([.removed position id, moved, told], f₃)
      else
        .error (.lineSettled id)

end Feed

end SetupBatch
