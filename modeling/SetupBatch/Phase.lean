import SetupBatch.Ticket
/-!
This module contains phases: tickets that may run at the same time. A pass over a local machine has
at most two of them, since a task either waits for the prerequisite subsystem or does not.
-/

namespace SetupBatch

structure Phase where
  number : Nat
  name : String
  tickets : List Ticket

namespace Phase

def single (name : String) (tickets : List Ticket) : List Phase :=
  if tickets.isEmpty then [] else [⟨0, name, tickets⟩]

/-- The independent tickets, then those that wait for the prerequisite; empty phases are left
out. -/
def split (tickets : List Ticket) : List Phase :=
  let (dependent, independent) := tickets.partition (·.profile.dependsOnPrerequisite)
  [⟨0, "independent", independent⟩, ⟨1, "prerequisite-dependent", dependent⟩].filter
    (! ·.tickets.isEmpty)

end Phase

end SetupBatch
