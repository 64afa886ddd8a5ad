import SetupBatch.Schedule.Completion
/-!
This module contains disciplines: the ways in which the workers of a pool may be brought to their
ends. What holds of a batch under every discipline holds in whatever order its workers step.
-/

namespace SetupBatch

structure Discipline where
  drain : Pool → Pool
  reach_drain : ∀ p : Pool, p.Reach (drain p)
  isDone_drain : ∀ p : Pool, (drain p).isDone = true

/-- Workers step in the order in which they became runnable, under a clock that only moves when
nobody is. -/
def Discipline.queued : Discipline where
  drain p := (Schedule.ofPool p).drain.pool
  reach_drain p := Schedule.drain_reach (.ofPool p)
  isDone_drain := Schedule.isDone_drain

end SetupBatch
