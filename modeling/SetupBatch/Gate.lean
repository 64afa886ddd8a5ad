import SetupBatch.Fault
/-!
This module contains the gate of a batch: a state machine that says when a pass may run, when a
retry is offered, and when the batch is over. What is shown to the user follows from its state.
-/

namespace SetupBatch

namespace Gate

inductive State where
  | idle
  | running (retriesUsed tasks : Nat)
  | awaitingRetry (retriesUsed failed : Nat)
  | finished (unresolved : Nat) (exhausted : Bool)
  deriving DecidableEq, Inhabited

inductive Event where
  | start (tasks : Nat)
  | passDrained (failed : Nat)
  | retryRequested
  | dismissed
  deriving DecidableEq, Inhabited

inductive Action where
  | log (message : String)
  | runPass (retry : Bool)
  | offerRetry (failed : Nat)
  | announceExhausted (failed : Nat)
  | finishBatch
  deriving DecidableEq, Inhabited

def State.describe : State → String
  | .idle => "Idle"
  | .running used tasks => s!"Running \x7b retries_used: {used}, tasks: {tasks} \x7d"
  | .awaitingRetry used failed =>
    s!"AwaitingRetryDecision \x7b retries_used: {used}, failed: {failed} \x7d"
  | .finished unresolved exhausted =>
    s!"Finished \x7b unresolved: {unresolved}, retries_exhausted: {exhausted} \x7d"

def Event.describe : Event → String
  | .start tasks => s!"Start \x7b task_count: {tasks} \x7d"
  | .passDrained failed => s!"PassDrained \x7b failed: {failed} \x7d"
  | .retryRequested => "RetryRequested"
  | .dismissed => "Dismissed"

structure Rejection where
  state : State
  event : Event
  deriving DecidableEq

namespace Rejection

def text (r : Rejection) : String :=
  s!"{r.state.describe} cannot handle event {r.event.describe}"

def fault (r : Rejection) : Fault := ⟨.invalidTransition, r.text⟩

end Rejection

/-- The next state and what is to be done, or a rejection. At most `budget` retries are granted. -/
def transition (state : State) (event : Event) (budget : Nat) :
    Except Rejection (State × List Action) :=
  match state, event with
  | .idle, .start 0 => .ok (.finished 0 false, [.log "No tasks to execute", .finishBatch])
  | .idle, .start tasks => .ok (.running 0 tasks, [.log s!"Starting {tasks} tasks", .runPass false])
  | .running _ _, .passDrained 0 =>
    .ok (.finished 0 false, [.log "All tasks succeeded", .finishBatch])
  | .running used _, .passDrained failed =>
    if budget ≤ used then
      .ok (.finished failed true,
        [.log s!"Retry budget spent; {failed} tasks failed", .announceExhausted failed,
          .finishBatch])
    else
      .ok (.awaitingRetry used failed,
        [.log s!"{failed} tasks failed; retry available", .offerRetry failed])
  | .awaitingRetry used failed, .retryRequested =>
    .ok (.running (used + 1) failed, [.log s!"Retrying {failed} failed tasks", .runPass true])
  | .awaitingRetry _ failed, .dismissed =>
    .ok (.finished failed false, [.log s!"Continuing with {failed} failed tasks", .finishBatch])
  | state, event => .error ⟨state, event⟩

end Gate

structure Gate where
  budget : Nat
  state : Gate.State := .idle
  deriving DecidableEq

namespace Gate

def apply (g : Gate) (event : Event) : Except Rejection (List Action × Gate) :=
  match transition g.state event g.budget with
  | .ok (state, actions) => .ok (actions, { g with state })
  | .error r => .error r

def isFinished (g : Gate) : Bool :=
  match g.state with
  | .finished _ _ => true
  | _ => false

def showsRetryButton (g : Gate) : Bool :=
  match g.state with
  | .awaitingRetry _ _ => true
  | _ => false

def showsExhaustedBanner (g : Gate) : Bool :=
  match g.state with
  | .finished _ exhausted => exhausted
  | _ => false

def decisionsLeft (g : Gate) : Nat :=
  match g.state with
  | .awaitingRetry used _ => g.budget - used + 1
  | _ => 0

theorem decisionsLeft_passDrained {g g' : Gate} {used tasks failed : Nat} {as : List Action}
    (hs : g.state = .running used tasks) (h : g.apply (.passDrained failed) = .ok (as, g')) :
    g'.decisionsLeft = 0 ∨ used < g.budget ∧ g'.decisionsLeft = g.budget - used + 1 := by
  unfold apply at h
  rw [hs] at h
  cases failed with
  | zero => simp [transition] at h; simp [← h.2, decisionsLeft]
  | succ n =>
    by_cases hb : g.budget ≤ used
    . simp [transition, hb] at h; simp [← h.2, decisionsLeft]
    . simp [transition, hb] at h
      right
      simp [← h.2, decisionsLeft]
      omega

end Gate

end SetupBatch
