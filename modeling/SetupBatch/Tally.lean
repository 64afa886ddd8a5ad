import SetupBatch.Ticket
import SetupBatch.Word
/-!
This module contains the tally of a batch: which tickets of the pass started and reported, how many
ended in which way, and the tickets that failed and may be run again.
-/

namespace SetupBatch

structure Counts where
  started : Nat := 0
  completed : Nat := 0
  succeeded : Nat := 0
  needsReboot : Nat := 0
  failed : Nat := 0
  deriving DecidableEq, Inhabited

namespace Counts

def successes (c : Counts) : Nat := c.succeeded + c.needsReboot

def isBalanced (c : Counts) : Bool := c.completed == c.successes + c.failed

def addSuccesses (c other : Counts) : Counts :=
  { c with
    succeeded := c.succeeded + other.succeeded
    needsReboot := c.needsReboot + other.needsReboot
    completed := c.completed + other.successes
    started := c.started + other.successes }

def report (c : Counts) : Outcome → Counts
  | .succeeded => { c with completed := c.completed + 1, succeeded := c.succeeded + 1 }
  | .needsReboot => { c with completed := c.completed + 1, needsReboot := c.needsReboot + 1 }
  | .failed => { c with completed := c.completed + 1, failed := c.failed + 1 }

end Counts

structure Standing where
  pass : Counts := {}
  carried : Counts := {}
  passSize : Nat := 0
  /-- The retries so far, in a word of 32 bits. -/
  retryCycle : Nat := 0
  retryBudget : Nat := 0
  deriving DecidableEq, Inhabited

namespace Standing

def report (s : Standing) : CounterMode → Counts
  | .perPass => s.pass
  | .cumulative => s.pass.addSuccesses s.carried

def retriesRemaining (s : Standing) : Nat := s.retryBudget - s.retryCycle

end Standing

/-- Counts each ticket once per pass and collects the failed ones. The three lists are sets of
indices. -/
structure Tally where
  standing : Standing := {}
  failed : List Ticket := []
  admitted : List Nat := []
  started : List Nat := []
  settled : List Nat := []

namespace Tally

def new (retryBudget : Nat) : Tally := { standing := { retryBudget } }

def begin (t : Tally) (tickets : List Ticket) : Tally :=
  { t with
    admitted := (tickets.map (·.index)).eraseDups
    started := []
    settled := []
    standing := { t.standing with passSize := tickets.length } }

def start (t : Tally) (index : Nat) : Except Breach Tally :=
  if index ∉ t.admitted then .error (.neverAdmitted index)
  else if index ∈ t.started then .error (.startedTwice index)
  else .ok { t with
    started := index :: t.started
    standing := { t.standing with
      pass := { t.standing.pass with started := t.standing.pass.started + 1 } } }

def report (t : Tally) (ticket : Ticket) (o : Outcome) : Except Breach Tally :=
  if ticket.index ∉ t.started then .error (.neverStarted ticket.index)
  else if ticket.index ∈ t.settled then .error (.reportedTwice ticket.index)
  else .ok { t with
    settled := ticket.index :: t.settled
    standing := { t.standing with pass := t.standing.pass.report o }
    failed := if o = .failed then t.failed ++ [ticket.withOutcome o] else t.failed }

def isDrained (t : Tally) : Bool := t.settled.length == t.admitted.length

def hasFailures (t : Tally) : Bool := ! t.failed.isEmpty

/-- Hands back the failed tickets for a retry; the successes of the pass are carried over. -/
def takeFailed (t : Tally) : List Ticket × Tally :=
  (t.failed.map (·.reset), { t with
    failed := []
    standing := { t.standing with
      pass := {}
      carried := t.standing.carried.addSuccesses t.standing.pass
      retryCycle := wrap32 (t.standing.retryCycle + 1) } })

end Tally

end SetupBatch
