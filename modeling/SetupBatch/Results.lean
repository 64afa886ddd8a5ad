import SetupBatch.Event
/-!
This module contains the table of results: the latest attempt at each task that ran, in the order
of the task list.
-/

namespace SetupBatch

abbrev Results := List Ticket

namespace Results

def insert (t : Ticket) : Results → Results
  | [] => [t]
  | u :: rest =>
    if t.index < u.index then t :: u :: rest
    else if t.index = u.index then t :: rest
    else u :: insert t rest

def store (r : Results) (tickets : List Ticket) : Results := tickets.foldl (flip insert) r

def report (r : Results) : List TaskResult :=
  r.filterMap fun t => t.outcome.map fun outcome =>
    { index := t.index, outcome, message := t.profile.wording.tell outcome }

end Results

end SetupBatch
