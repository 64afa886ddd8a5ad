import SetupBatch.Text.Position
/-!
This module contains the errors of a batch. A `Fault` is what a task or an operation reports; a
`Breach` is one of the ways in which the bookkeeping of a pass can be misused, and is reported as
a fault of its own kind.
-/

namespace SetupBatch

structure LineId where
  number : Nat
  deriving DecidableEq, Inhabited

def LineId.label (id : LineId) : String := s!"entry-{id.number}"

namespace Fault

inductive Kind where
  | taskExecution
  | elevationUnavailable
  | invariantViolation
  | invalidTransition
  | config
  | io
  | serialization
  | other
  deriving DecidableEq, Inhabited

def Kind.heading : Kind → String
  | .taskExecution => "Task execution failed: "
  | .elevationUnavailable => "Elevation unavailable: "
  | .invariantViolation => "Orchestration invariant violated: "
  | .invalidTransition => "Invalid transition: "
  | .config => "Configuration error: "
  | .io => "I/O error: "
  | .serialization => "Serialization error: "
  | .other => ""

end Fault

structure Fault where
  kind : Fault.Kind
  text : String
  deriving DecidableEq, Inhabited

namespace Fault

def ofText (kind : Kind) (text : String) : Fault :=
  match kind with
  | .serialization => ⟨kind, Text.Position.normalize text⟩
  | kind => ⟨kind, text⟩

def message (f : Fault) : String := f.kind.heading ++ f.text

/-- Holds of mistakes in the bookkeeping, as opposed to conditions of some task. -/
def isInvariantViolation (f : Fault) : Bool := f.kind == .invariantViolation

end Fault

inductive Breach where
  | neverAdmitted (task : Nat)
  | startedTwice (task : Nat)
  | neverStarted (task : Nat)
  | reportedTwice (task : Nat)
  | lineMissing (id : LineId)
  | lineSettled (id : LineId)
  | workerUnfinished (task : Nat)
  deriving DecidableEq, Inhabited

namespace Breach

def text : Breach → String
  | .neverAdmitted i => s!"task {i} started but was never admitted"
  | .startedTwice i => s!"task {i} started twice in one pass"
  | .neverStarted i => s!"outcome reported for unknown task {i}"
  | .reportedTwice i => s!"task {i} reported an outcome twice"
  | .lineMissing id => s!"{id.label} is not in the feed"
  | .lineSettled id => s!"{id.label} was already settled"
  | .workerUnfinished i => s!"task worker did not complete: {i}"

def fault (b : Breach) : Fault := ⟨.invariantViolation, b.text⟩

end Breach

end SetupBatch
