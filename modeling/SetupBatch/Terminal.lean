import SetupBatch.Event
/-!
This module contains the terminal: what is printed for the events of a batch. A running line is
shown when it appears; when it settles, the line that follows it already says how it ended.
-/

namespace SetupBatch

def Summary.line (s : Summary) : String :=
  s!"{s.batch.label}: {s.counts.successes} succeeded ({s.counts.needsReboot} need a restart), " ++
    s!"{s.counts.failed} failed after {s.retryCycles} retry pass(es)"

def Severity.mark : Severity → String
  | .info => "-"
  | .success => "+"
  | .warning => "!"
  | .error => "x"

structure Terminal where
  shown : List LineId := []
  deriving DecidableEq, Inhabited

namespace Terminal

def display (t : Terminal) : Event → Option String × Terminal
  | .lineAdded _ line =>
    if line.id ∈ t.shown then (none, t)
    else
      let mark := if line.running then ".." else line.severity.mark
      (some s!"  {mark} {line.text}", { shown := line.id :: t.shown })
  | .progress (.determinate started total) =>
    (if 0 < started then some s!"Executing task {started} of {total}" else none, t)
  | .progress .indeterminate => (some "Executing...", t)
  | .target name => (some s!"Setting up {name}", t)
  | .noticeAdded notice =>
    let content := notice.content
    let detail := match content.detail with
      | some detail => s!" ({detail})"
      | none => ""
    (some s!"  {content.severity.mark} {content.title}{detail}", t)
  | .retryOffered failed => (some s!"{failed} task(s) failed; a retry is available", t)
  | .retriesExhausted failed => (some s!"Out of retries; {failed} task(s) still failing", t)
  | .batchFinished summary => (some summary.line, t)
  | .lineRemoved _ _ | .noticeRemoved _ | .failureCount _ => (none, t)

def displayAll (t : Terminal) : List Event → List String
  | [] => []
  | e :: rest =>
    let (printed, t) := t.display e
    printed.toList ++ t.displayAll rest

end Terminal

def Terminal.print (quiet : Bool) (events : List Event) : List String :=
  if quiet then [] else Terminal.displayAll {} events

end SetupBatch
