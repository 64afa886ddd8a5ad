import SetupBatch.Discipline
import SetupBatch.Gate
import SetupBatch.Results
/-!
This module contains batches: a first pass over all tasks, retry passes over the failed ones while
the gate grants them, and a summary at the end. A call that the gate rejects changes nothing.
-/

namespace SetupBatch

structure Batch where
  id : BatchId
  options : Options
  crew : Crew
  shared : Shared
  gate : Gate
  pending : List Ticket
  results : Results := []

namespace Batch

/-- The tickets that a batch takes from a task list: all of them on this machine, and only the first
on a remote one. -/
def ticketsFor (target : Target) (tasks : List Task) : List Ticket :=
  let tickets := Ticket.admitAll tasks
  if target.isRemote then tickets.take 1 else tickets

def new (id : BatchId) (options : Options) (tasks : List Task) (channel : Option String := none)
    (clock : Nat → Instant := fun _ => default) : Except TooManySlots Batch := do
  let slots ← Slots.ofBound? options.maxConcurrency
  return {
    id, options
    crew := { slots, channel, strictElevation := options.strictElevation }
    shared := { board := .new options.retryBudget options.target clock }
    gate := { budget := options.retryBudget }
    pending := ticketsFor options.target tasks }

abbrev board (b : Batch) : Board := b.shared.board

def withBoard (b : Batch) (board : Board) : Batch := { b with shared := { b.shared with board } }

def state (b : Batch) : Gate.State := b.gate.state

def messages (b : Batch) : List Line := b.board.feed.lines

def notices (b : Batch) : List Notice := b.board.notices

def failed (b : Batch) : List Ticket := b.board.tally.failed

def standing (b : Batch) : Standing := b.board.tally.standing

def counts (b : Batch) : Counts := b.standing.report b.options.counterMode

def summary (b : Batch) : Summary where
  batch := b.id
  counts := b.counts
  retryCycles := b.standing.retryCycle
  exhausted := b.gate.showsExhaustedBanner
  unresolved := b.failed.map (·.profile.wording.failed)
  results := b.results.report

def phases (target : Target) (retry : Bool) (tickets : List Ticket) : List Phase :=
  if retry then Phase.single "retry" tickets
  else if target.isRemote then Phase.single "remote" tickets
  else Phase.split tickets

def runPhase (d : Discipline) (b : Batch) (p : Phase) : Except Breach Unit × Batch :=
  let pool := d.drain (.ofPhase b.crew b.shared p)
  let b := { b with shared := pool.shared }
  match pool.results with
  | .error e => (.error e, b)
  | .ok tickets => (.ok (), { b with results := b.results.store tickets })

/-- Runs phases one after the other; none follows one whose bookkeeping was refused. -/
def runPhases (d : Discipline) (b : Batch) : List Phase → Except Breach Unit × Batch
  | [] => (.ok (), b)
  | p :: rest =>
    match b.runPhase d p with
    | (.error e, b) => (.error e, b)
    | (.ok (), b) => runPhases d b rest

def runPass (d : Discipline) (b : Batch) (retry : Bool) : Except Breach Nat × Batch :=
  let tickets := b.pending
  let b := { b with pending := [] }.withBoard (b.board.beginPass tickets)
  match runPhases d b (phases b.options.target retry tickets) with
  | (.error e, b) => (.error e, b)
  | (.ok (), b) => (.ok b.failed.length, b.withBoard b.board.endPass)

def announce (b : Batch) : Gate.Action → Batch
  | .log _ | .runPass _ => b
  | .offerRetry failed => b.withBoard (b.board.tell (.retryOffered failed))
  | .announceExhausted failed => b.withBoard (b.board.tell (.retriesExhausted failed))
  | .finishBatch => b.withBoard (b.board.tell (.batchFinished b.summary))

/-- Carries out actions in order. A pass reports to the gate, whose answer is carried out after
the other actions; it never asks for another pass. -/
def perform (d : Discipline) (b : Batch) : List Gate.Action → Except Fault Unit × Batch
  | [] => (.ok (), b)
  | .runPass retry :: rest =>
    match b.runPass d retry with
    | (.error e, b) => (.error e.fault, b)
    | (.ok failed, b) =>
      match b.gate.apply (.passDrained failed) with
      | .error r => (.error r.fault, b)
      | .ok (more, gate) => (.ok (), (rest ++ more).foldl announce { b with gate })
  | action :: rest => perform d (b.announce action) rest

def reply {α : Type} (answer : Batch → α) : Except Fault Unit × Batch → Except Fault α × Batch
  | (.error e, b) => (.error e, b)
  | (.ok (), b) => (.ok (answer b), b)

def run (d : Discipline) (b : Batch) : Except Fault Gate.State × Batch :=
  match b.gate.apply (.start b.pending.length) with
  | .error r => (.error r.fault, b)
  | .ok (actions, gate) => reply state ({ b with gate }.perform d actions)

def retry (d : Discipline) (b : Batch) : Except Fault Gate.State × Batch :=
  match b.gate.apply .retryRequested with
  | .error r => (.error r.fault, b)
  | .ok (actions, gate) =>
    let (pending, board) := b.board.clearNotices.takeFailed
    reply state (({ b with gate, pending }.withBoard board).perform d actions)

def finish (d : Discipline) (b : Batch) : Except Fault Summary × Batch :=
  match b.gate.apply .dismissed with
  | .error r => (.error r.fault, b)
  | .ok (actions, gate) => reply summary ({ b with gate }.perform d actions)

def say (b : Batch) (text : String) (severity : Severity) : Batch :=
  b.withBoard (b.board.say text severity)

def hush (b : Batch) : Batch := b.withBoard b.board.hush

theorem gate_runPhase (d : Discipline) (b : Batch) (p : Phase) :
    (b.runPhase d p).2.gate = b.gate := by
  unfold runPhase
  dsimp only
  split <;> rfl

theorem gate_runPhases (d : Discipline) (b : Batch) (ps : List Phase) :
    (runPhases d b ps).2.gate = b.gate := by
  induction ps generalizing b with
  | nil => rfl
  | cons p ps ih =>
    have := gate_runPhase d b p
    unfold runPhases
    split
    next h => simpa [h] using this
    next h => rw [ih]; simpa [h] using this

theorem gate_runPass (d : Discipline) (b : Batch) (retry : Bool) :
    (b.runPass d retry).2.gate = b.gate := by
  unfold runPass
  dsimp only
  split
  next h => exact congrArg (·.2.gate) h ▸ gate_runPhases d _ _
  next h => exact congrArg (·.2.gate) h ▸ gate_runPhases d _ _

theorem gate_announce (b : Batch) (a : Gate.Action) : (b.announce a).gate = b.gate := by
  cases a <;> rfl

theorem gate_announceAll (b : Batch) (as : List Gate.Action) :
    (as.foldl announce b).gate = b.gate := by
  induction as generalizing b with
  | nil => rfl
  | cons a as ih => rw [List.foldl_cons, ih, gate_announce]

theorem gate_perform_runPass {d : Discipline} {b b' : Batch} {retry : Bool}
    (h : b.perform d [.runPass retry] = (.ok (), b')) :
    ∃ failed more, b.gate.apply (.passDrained failed) = .ok (more, b'.gate) := by
  unfold perform at h
  split at h
  . simp at h
  next failed b₁ hpass =>
    have hgate : b₁.gate = b.gate := by simpa [hpass] using gate_runPass d b retry
    split at h
    . simp at h
    next more gate happly =>
      obtain ⟨-, rfl⟩ := Prod.mk.inj h
      exact ⟨failed, more, by rw [← hgate, happly, gate_announceAll]⟩

end Batch

end SetupBatch
