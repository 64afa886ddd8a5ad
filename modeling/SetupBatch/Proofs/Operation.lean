import SetupBatch.Board

/-!
This module contains the operations of a board as data, so that histories of a board are lists.
Whether an operation is called for a task or for the presentation makes no difference to the board.
-/

namespace SetupBatch

inductive Operation where
  | beginPass (tickets : List Ticket)
  | endPass
  | start (t : Ticket)
  | finish (t : Ticket) (line : LineId) (o : Outcome) (detail : Option String)
  | say (text : String) (severity : Severity)
  | request (notice : Notice) (kind : NoticeRequest)
  | clearNotices
  | takeFailed

namespace Board

def carryOut (b : Board) : Operation → Board
  | .beginPass tickets => b.beginPass tickets
  | .endPass => b.endPass
  | .start t => (b.start t).2
  | .finish t line o detail => (b.finish t line o detail).2
  | .say text severity => b.say text severity
  | .request notice kind => b.request notice kind
  | .clearNotices => b.clearNotices
  | .takeFailed => b.takeFailed.2

def carryOutAll (b : Board) (ops : List Operation) : Board := ops.foldl carryOut b

theorem carryOutAll_append (b : Board) (xs ys : List Operation)
    : b.carryOutAll (xs ++ ys) = (b.carryOutAll xs).carryOutAll ys := by
  unfold carryOutAll
  rw [List.foldl_append]

end Board

end SetupBatch
