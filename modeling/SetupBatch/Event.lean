import SetupBatch.Feed
import SetupBatch.Notice
import SetupBatch.Tally
import SetupBatch.Uuid
/-!
This module contains what a batch tells its presentation: the changes of the feed and of the
notices, the progress header, the offers to retry, and the final summary.
-/

namespace SetupBatch

structure BatchId where
  uuid : Uuid
  deriving DecidableEq, Inhabited

def BatchId.label (id : BatchId) : String := "batch-" ++ String.ofList (id.uuid.digits.take 8)

inductive Progress where
  | determinate (started total : Nat)
  | indeterminate
  deriving DecidableEq, Inhabited

structure TaskResult where
  index : Nat
  outcome : Outcome
  message : String
  deriving DecidableEq, Inhabited

structure Summary where
  batch : BatchId
  counts : Counts
  retryCycles : Nat
  exhausted : Bool
  unresolved : List String
  results : List TaskResult
  deriving DecidableEq, Inhabited

def Summary.isClean (s : Summary) : Bool := s.unresolved.isEmpty

inductive Event where
  | lineAdded (position : Nat) (line : Line)
  | lineRemoved (position : Nat) (id : LineId)
  | noticeAdded (notice : Notice)
  | noticeRemoved (notice : Notice)
  | progress (display : Progress)
  | target (name : String)
  | failureCount (failed : Nat)
  | retryOffered (failed : Nat)
  | retriesExhausted (failed : Nat)
  | batchFinished (summary : Summary)
  deriving DecidableEq, Inhabited

def Event.ofChange : Feed.Change → Event
  | .inserted position line => .lineAdded position line
  | .removed position id => .lineRemoved position id

/-- The events told so far, in order. Once nobody listens, events are lost. -/
structure Stream where
  told : List Event := []
  heard : Bool := true
  deriving DecidableEq, Inhabited

namespace Stream

def tell (s : Stream) (e : Event) : Stream :=
  if s.heard then { s with told := s.told ++ [e] } else s

def tellAll (s : Stream) (es : List Event) : Stream := es.foldl tell s

def hush (s : Stream) : Stream := { s with heard := false }

theorem told_tell (s : Stream) (e : Event) :
    (s.tell e).told = if s.heard then s.told ++ [e] else s.told := by
  unfold tell; split <;> rfl

theorem heard_tell (s : Stream) (e : Event) : (s.tell e).heard = s.heard := by
  unfold tell; split <;> rfl

theorem told_tellAll (s : Stream) (es : List Event) :
    (s.tellAll es).told = if s.heard then s.told ++ es else s.told := by
  unfold tellAll
  induction es generalizing s with
  | nil => simp
  | cons e es ih =>
    rw [List.foldl_cons, ih, heard_tell, told_tell]
    split <;> simp

end Stream

end SetupBatch
