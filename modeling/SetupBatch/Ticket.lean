import SetupBatch.Task
import SetupBatch.Text.Quoted
/-!
This module contains tickets: tasks admitted into a batch, each with its place in the task list and
the outcome of its latest attempt.
-/

namespace SetupBatch

structure Ticket where
  index : Nat
  task : Task
  outcome : Option Outcome := none

namespace Ticket

abbrev profile (t : Ticket) : Profile := t.task.profile

def admitAll (tasks : List Task) : List Ticket :=
  tasks.zipIdx.map fun (task, index) => { index, task }

def reset (t : Ticket) : Ticket := { t with outcome := none }

def withOutcome (t : Ticket) (o : Outcome) : Ticket := { t with outcome := some o }

def told (t : Ticket) : Option String := t.outcome.map t.profile.wording.tell

def describe (t : Ticket) : String :=
  let outcome := match t.outcome with
    | none => "None"
    | some .succeeded => "Some(Succeeded)"
    | some .needsReboot => "Some(SucceededNeedsReboot)"
    | some .failed => "Some(Failed)"
  s!"TaskRecord \x7b index: {t.index}, executing_message: " ++
    Text.quoted t.profile.wording.executing ++ s!", outcome: {outcome} \x7d"

end Ticket

end SetupBatch
