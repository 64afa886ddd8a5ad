import SetupBatch.Batch
import SetupBatch.Plan
import SetupBatch.Settings
import SetupBatch.Terminal
/-!
This module contains runs of plans: a batch over the tasks of a plan that decides by itself about
every retry on offer. Each retry uses up one that the gate may grant, so that a run comes to an end.
-/

namespace SetupBatch

structure RunFlags where
  retry : Bool := false
  json : Bool := false
  elevated : Bool := false
  maxConcurrency : Option Nat := none
  deriving DecidableEq, Inhabited

namespace Plan

def localChannel : String := "local elevated session"

def options (p : Plan) (settings : Settings) (flags : RunFlags) : Options :=
  let o := settings.options p.setupTarget
  match flags.maxConcurrency with
  | some max => o.withMaxConcurrency max
  | none => o

def batch (p : Plan) (id : BatchId) (settings : Settings) (flags : RunFlags) :
    Except TooManySlots Batch :=
  Batch.new id (p.options settings flags) (p.tasks.map (·.task))
    (if flags.elevated then some localChannel else none)

end Plan

namespace Batch

inductive Answer where
  | state (s : Gate.State)
  | summary (s : Summary)
  deriving DecidableEq, Inhabited

theorem decisionsLeft_retry {d : Discipline} {b b' : Batch} {s : Gate.State}
    (h : b.retry d = (.ok s, b')) : b'.gate.decisionsLeft < b.gate.decisionsLeft := by
  unfold retry at h
  split at h
  . simp at h
  next actions gate happly =>
    cases hs : b.gate.state with
    | awaitingRetry used failed =>
      simp only [Gate.apply, hs, Gate.transition, Except.ok.injEq, Prod.mk.injEq] at happly
      obtain ⟨rfl, rfl⟩ := happly
      simp only [reply] at h
      split at h
      . simp at h
      next b₁ hp =>
        obtain ⟨-, rfl⟩ := Prod.mk.inj h
        unfold perform at hp
        obtain ⟨_, _, hg⟩ := gate_perform_runPass hp
        have := Gate.decisionsLeft_passDrained rfl hg
        simp only [Gate.decisionsLeft, hs, announce, withBoard] at this ⊢
        omega
    | _ => simp [Gate.apply, hs, Gate.transition] at happly

/-- Decides about retries until none is on offer: failed tasks are retried if that is wanted, and
else the failures are accepted. Gives the answers to all calls; a refused call is the last. -/
def decide (d : Discipline) (retry : Bool) (b : Batch) : List (Except Fault Answer) × Batch :=
  if b.gate.showsRetryButton then
    if retry then
      match h : b.retry d with
      | (.ok state, b') =>
        have := decisionsLeft_retry h
        let (answers, b) := decide d retry b'
        (.ok (.state state) :: answers, b)
      | (.error e, b) => ([.error e], b)
    else
      let (answer, b) := b.finish d
      ([answer.map .summary], b)
  else ([], b)
termination_by b.gate.decisionsLeft

def runAll (d : Discipline) (retry : Bool) (b : Batch) : List (Except Fault Answer) × Batch :=
  match b.run d with
  | (.ok state, b) =>
    let (answers, b) := b.decide d retry
    (.ok (.state state) :: answers, b)
  | (.error e, b) => ([.error e], b)

end Batch

structure Report where
  answers : List (Except Fault Batch.Answer)
  lines : List String
  crashes : List String
  summary : Summary

namespace Report

def fault? (r : Report) : Option Fault :=
  r.answers.findSome? fun
    | .error f => some f
    | .ok _ => none

end Report

def Plan.crashes (p : Plan) (calls : List Call) : List String :=
  calls.filterMap fun call => do
    match ((← p.tasks[call.task]?).attempt call.attempt).ending with
    | .crash text => text
    | _ => none

def Plan.run (p : Plan) (d : Discipline) (id : BatchId) (settings : Settings) (flags : RunFlags) :
    Except TooManySlots Report := do
  let (answers, b) := (← p.batch id settings flags).runAll d flags.retry
  return {
    answers, lines := Terminal.print flags.json b.board.told
    crashes := p.crashes b.shared.calls, summary := b.summary }

end SetupBatch
