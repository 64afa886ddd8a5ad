import SetupBatch.Event
import SetupBatch.Options
/-!
This module contains the board of a batch: the feed, the tally and the notices, which change
together. Every operation is one step for all that watch the board, and tells its events in the
order in which the lists changed. An operation that is refused keeps what it did before the
refusal.
-/

namespace SetupBatch

structure Board where
  feed : Feed := {}
  tally : Tally
  notices : List Notice := []
  target : Target
  raised : Nat := 0
  stream : Stream := {}

namespace Board

def new (retryBudget : Nat) (target : Target) (clock : Nat → Instant := fun _ => default) :
    Board :=
  { feed := { clock }, tally := .new retryBudget, target }

abbrev told (b : Board) : List Event := b.stream.told

def tell (b : Board) (e : Event) : Board := { b with stream := b.stream.tell e }

def tellChanges (b : Board) (changes : List Feed.Change) : Board :=
  { b with stream := b.stream.tellAll (changes.map .ofChange) }

def progress (b : Board) : Event :=
  .progress (.determinate b.tally.standing.pass.started b.tally.standing.passSize)

def beginPass (b : Board) (tickets : List Ticket) : Board :=
  { b with tally := b.tally.begin tickets }.tell <|
    .progress (if b.target.isRemote then .indeterminate else .determinate 0 tickets.length)

def endPass (b : Board) : Board := if b.target.isRemote then b.tell b.progress else b

/-- The event that announces a starting ticket: the machine it configures if that is a remote one,
and the count of started tickets otherwise. -/
def announcement (b : Board) (t : Ticket) : Event :=
  match b.target with
  | .remote name => .target (t.profile.targetName.getD name)
  | .here => b.progress

def start (b : Board) (t : Ticket) : Except Breach LineId × Board :=
  match b.tally.start t.index with
  | .error e => (.error e, b)
  | .ok tally =>
    let (id, change, feed) := b.feed.begin t.profile.wording.executing t.index
    let b := { b with tally, feed }
    (.ok id, (b.tell (b.announcement t)).tellChanges [change])

def raise (b : Board) (content : Draft) : Board :=
  let notice := ⟨.raised b.raised, content⟩
  { b with notices := notice :: b.notices, raised := b.raised + 1 }.tell (.noticeAdded notice)

def raiseFor (b : Board) (p : Profile) (o : Outcome) (detail : Option String) : Board :=
  match o with
  | .succeeded => b
  | .needsReboot => b.raise p.rebootNotice
  | .failed =>
    b.raise (match detail with
      | some detail => p.errorNotice.withDetail detail
      | none => p.errorNotice)

def finish (b : Board) (t : Ticket) (line : LineId) (o : Outcome) (detail : Option String) :
    Except Breach Unit × Board :=
  match b.tally.report t o with
  | .error e => (.error e, b)
  | .ok tally =>
    let b := { b with tally }.raiseFor t.profile o detail
    match b.feed.settle line o (t.profile.wording.tell o) with
    | .error e => (.error e, b)
    | .ok (changes, feed) =>
      (.ok (), ({ b with feed }.tellChanges changes).tell
        (.failureCount b.tally.standing.pass.failed))

def say (b : Board) (text : String) (severity : Severity) : Board :=
  let (change, feed) := b.feed.add text severity
  { b with feed }.tellChanges [change]

def post (b : Board) (notice : Notice) : Board :=
  { b with notices := b.notices ++ [notice] }.tell (.noticeAdded notice)

def withdraw (b : Board) (id : NoticeId) : Board :=
  match b.notices.find? (·.id == id) with
  | none => b
  | some notice =>
    { b with notices := b.notices.eraseP (·.id == id) }.tell (.noticeRemoved notice)

def request (b : Board) (notice : Notice) : NoticeRequest → Board
  | .add => b.post notice
  | .remove => b.withdraw notice.id

def clearNotices (b : Board) : Board :=
  { b with notices := [], stream := b.stream.tellAll (b.notices.map .noticeRemoved) }

def takeFailed (b : Board) : List Ticket × Board :=
  let (failed, tally) := b.tally.takeFailed
  (failed, { b with tally }.tell (.failureCount 0))

def hush (b : Board) : Board := { b with stream := b.stream.hush }

end Board

end SetupBatch
