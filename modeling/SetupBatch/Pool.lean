import SetupBatch.Board
import SetupBatch.Phase
import SetupBatch.Word
/-!
This module contains the pool of workers that run one phase. Each ticket has a worker, which takes
a slot, starts, performs the effects of its attempt one by one, reports, and gives its slot back.
Each of these is one step; the steps of different workers may come in any order that the slots
admit. `Pool.Reach` is the relation between a pool and what any such order may make of it.
-/

namespace SetupBatch

def maxSlots : Nat := maxWord64 / 8

structure Slots where
  count : Nat
  pos : 0 < count
  le_maxSlots : count ≤ maxSlots
  deriving DecidableEq

structure TooManySlots where
  asked : Nat
  deriving DecidableEq

def TooManySlots.message (_ : TooManySlots) : String :=
  s!"a semaphore may not have more than MAX_PERMITS permits ({maxSlots})"

namespace Slots

/-- The slots for a bound on the tasks that run at once; a bound of zero counts as one. -/
def ofBound (bound : Nat) : Except TooManySlots Slots :=
  if h : max bound 1 ≤ maxSlots then .ok ⟨max bound 1, by omega, h⟩ else .error ⟨bound⟩

def ofBound? : Option Nat → Except TooManySlots (Option Slots)
  | none => .ok none
  | some bound => (ofBound bound).map some

end Slots

structure Crew where
  slots : Option Slots := none
  channel : Option String := none
  strictElevation : Bool := false

def Crew.mode (c : Crew) (p : Profile) : Mode :=
  if p.requiresElevation then
    match c.channel with
    | some channel => .elevated channel
    | none => if c.strictElevation then .refused else .normal
  else .normal

structure Call where
  task : Nat
  attempt : Nat
  elevated : Bool
  deriving DecidableEq, Inhabited

structure Shared where
  board : Board
  notebook : Notebook := {}
  calls : List Call := []

namespace Shared

def nextAttempt (s : Shared) (task : Nat) : Nat := s.calls.countP (·.task == task) + 1

def perform (s : Shared) : Effect → Shared
  | .sleep _ => s
  | .say text severity => { s with board := s.board.say text severity }
  | .write key content =>
    let (notice, notebook) := s.notebook.write key content
    { s with board := s.board.request notice .add, notebook }
  | .post key =>
    let (notice, notebook) := s.notebook.lookUp key
    { s with board := s.board.request notice .add, notebook }
  | .withdraw key =>
    let (notice, notebook) := s.notebook.lookUp key
    { s with board := s.board.request notice .remove, notebook }

/-- The attempt that a starting ticket makes; a refused one runs no code. -/
def dispatch (s : Shared) (t : Ticket) (mode : Mode) : Attempt × Shared :=
  let number := s.nextAttempt t.index
  let call := { task := t.index, attempt := number, elevated := t.task.runsElevated mode }
  (t.task.play mode number,
    if mode = .refused then s else { s with calls := s.calls ++ [call] })

end Shared

inductive Stage where
  | waiting
  | ready
  | running (line : LineId) (rest : List Effect) (ending : Ending)
  | reported (result : Except Breach Ticket)
  | gone (result : Except Breach Ticket)

structure Worker where
  ticket : Ticket
  stage : Stage := .waiting

namespace Worker

def holdsSlot (w : Worker) : Bool :=
  match w.stage with
  | .waiting | .gone _ => false
  | .ready | .running .. | .reported _ => true

def isRunning (w : Worker) : Bool :=
  match w.stage with
  | .running .. => true
  | _ => false

def isGone (w : Worker) : Bool :=
  match w.stage with
  | .gone _ => true
  | _ => false

def result (w : Worker) : Except Breach Ticket :=
  match w.stage with
  | .gone result => result
  | _ => .error (.workerUnfinished w.ticket.index)

def start (crew : Crew) (s : Shared) (w : Worker) : Worker × Shared :=
  match s.board.start w.ticket with
  | (.error e, board) => ({ w with stage := .reported (.error e) }, { s with board })
  | (.ok line, board) =>
    let (attempt, s) := { s with board }.dispatch w.ticket (crew.mode w.ticket.profile)
    ({ w with stage := .running line attempt.effects attempt.ending }, s)

def report (s : Shared) (w : Worker) (line : LineId) (ending : Ending) : Worker × Shared :=
  let (outcome, detail) := ending.verdict w.ticket.profile.requiresReboot
  let ticket := w.ticket.withOutcome outcome
  let (reply, board) := s.board.finish ticket line outcome detail
  ({ w with stage := .reported (reply.map fun _ => ticket) }, { s with board })

/-- The next step of a worker, if it can take one; only a free slot lets it begin. -/
def step? (crew : Crew) (free : Bool) (s : Shared) (w : Worker) : Option (Worker × Shared) :=
  match w.stage with
  | .waiting => if free then some ({ w with stage := .ready }, s) else none
  | .ready => some (w.start crew s)
  | .running line (effect :: rest) ending =>
    some ({ w with stage := .running line rest ending }, s.perform effect)
  | .running line [] ending => some (w.report s line ending)
  | .reported result => some ({ w with stage := .gone result }, s)
  | .gone _ => none

end Worker

structure Pool where
  crew : Crew
  shared : Shared
  workers : List Worker

namespace Pool

def ofPhase (crew : Crew) (shared : Shared) (p : Phase) : Pool :=
  { crew, shared, workers := p.tickets.map ({ ticket := · }) }

def taken (p : Pool) : Nat := p.workers.countP (·.holdsSlot)

def hasFree (p : Pool) : Bool :=
  match p.crew.slots with
  | none => true
  | some slots => p.taken < slots.count

def step? (p : Pool) (i : Nat) : Option Pool :=
  match p.workers[i]? with
  | none => none
  | some w =>
    (w.step? p.crew p.hasFree p.shared).map fun (w, shared) =>
      { p with shared, workers := p.workers.set i w }

inductive Reach (p : Pool) : Pool → Prop where
  | refl : Reach p p
  | step {q r : Pool} (i : Nat) : Reach p q → q.step? i = some r → Reach p r

theorem Reach.trans {p q r : Pool} (h₁ : p.Reach q) (h₂ : q.Reach r) : p.Reach r := by
  induction h₂ with
  | refl => exact h₁
  | step i _ hs ih => exact .step i ih hs

def isDone (p : Pool) : Bool := p.workers.all (·.isGone)

def results (p : Pool) : Except Breach (List Ticket) := p.workers.mapM (·.result)

end Pool

end SetupBatch
