import SetupBatch.Outcome
/-!
This module contains the four texts that a task shows over its life.
-/

namespace SetupBatch

structure Wording where
  executing : String
  finished : String
  failed : String
  needsReboot : String
  deriving DecidableEq, Inhabited

namespace Wording

def ofLabel (label : String) : Wording where
  executing := s!"{label}..."
  finished := s!"{label}: done"
  failed := s!"{label}: failed"
  needsReboot := s!"{label}: done, restart required"

def tell (w : Wording) : Outcome → String
  | .succeeded => w.finished
  | .needsReboot => w.needsReboot
  | .failed => w.failed

end Wording

end SetupBatch
