import SetupBatch.Proofs.Isolation

/-!
This module contains the verification of a task from its start to its end: how its code is
dispatched, what its outcome follows from, and, where nothing else happens in the meantime, all that
is told of it.
-/

namespace SetupBatch

namespace Crew

variable (crew : Crew) (p : Profile)

theorem mode_eq_refused_iff
    : crew.mode p = .refused ↔
        p.requiresElevation = true ∧ crew.channel = none ∧ crew.strictElevation = true := by
  unfold mode
  cases p.requiresElevation with
  | false => simp
  | true => cases crew.channel <;> cases crew.strictElevation <;> simp

end Crew

namespace Ending

variable (e : Ending) (requiresReboot : Bool)

end Ending

namespace Board

def opens (b : Board) (t : Ticket) : List Event :=
  [match b.target with
    | .remote name => .target (t.profile.targetName.getD name)
    | .here => .progress (.determinate (b.tally.standing.pass.started + 1) b.tally.standing.passSize),
    .lineAdded b.feed.lines.length (b.feed.opening t.profile.wording.executing t.index)]

def closes (b : Board) (t : Ticket) (l : Line) (o : Outcome) (detail : Option String) :
    List Event :=
  (b.notice? t o detail).toList.map .noticeAdded ++
    [.lineRemoved (b.feed.lines.length - 1) l.id,
      .lineAdded b.feed.settled.length (l.settledAs o),
      .lineAdded (b.feed.settled.length + 1)
        (b.feed.closing l o (t.profile.wording.tell o)),
      .failureCount (b.tally.standing.pass.failed + if o = .failed then 1 else 0)]

variable {b : Board} {t : Ticket}

end Board

namespace Shared

def hears (s : Shared) : Effect → List Event
  | .sleep _ => []
  | .say text severity =>
    [.lineAdded s.board.feed.settled.length (s.board.feed.remark text severity)]
  | .write key content => [.noticeAdded (s.notebook.write key content).1]
  | .post key => [.noticeAdded (s.notebook.lookUp key).1]
  | .withdraw key =>
    (s.board.notices.find? (·.id == (s.notebook.lookUp key).1.id)).toList.map .noticeRemoved

def hearsAll (s : Shared) : List Effect → List Event
  | [] => []
  | effect :: rest => s.hears effect ++ (s.perform effect).hearsAll rest

def performAll (s : Shared) (effects : List Effect) : Shared := effects.foldl perform s

variable {s : Shared}

end Shared

namespace Ticket

def startedAt (crew : Crew) (s : Shared) (t : Ticket) : Shared :=
  (Shared.dispatch { s with board := (s.board.start t).2 } t (crew.mode t.profile)).2

def nextLine (s : Shared) (t : Ticket) : Line :=
  s.board.feed.opening t.profile.wording.executing t.index

/-- All that is told of a ticket that starts now, if nothing else happens until it has reported. -/
def tells (crew : Crew) (s : Shared) (t : Ticket) : List Event :=
  let effects := (t.nextAt crew s).effects
  let verdict := t.nextVerdict crew s
  s.board.opens t ++ (t.startedAt crew s).hearsAll effects ++
    ((t.startedAt crew s).performAll effects).board.closes t (t.nextLine s) verdict.1 verdict.2

variable {crew : Crew} {s₀ s : Shared} {t : Ticket}

end Ticket

namespace Worker

variable {crew : Crew} {s₀ s s' : Shared} {w w' : Worker} {t : Ticket} {n : Nat}

end Worker

namespace Ticket

variable {crew : Crew} {s₀ s : Shared} {t : Ticket}

section Dispatch

variable (k : Nat)

end Dispatch

section Run

variable (hb : s₀.board.stream.Tells s₀.board.feed) (ht : s₀.board.Expects t.index)

include hb ht

end Run

example
    : let task : Task :=
        { profile := { wording := .ofLabel "A" }
          attempt := fun _ => ⟨[.say "B" .info], .crash (some "C")⟩ }
      let s₀ : Shared := { board := (Board.new 1 .here).carryOutAll [.beginPass [⟨4, task, none⟩]] }
      tells {} s₀ ⟨4, task, none⟩ =
        [.progress (.determinate 1 1), .lineAdded 0 ⟨⟨0⟩, "A...", .info, true, some 4, default⟩,
          .lineAdded 0 ⟨⟨1⟩, "B", .info, false, none, default⟩,
          .noticeAdded ⟨.raised 0, ⟨"A: failed", .error, some "Task panicked: C"⟩⟩,
          .lineRemoved 1 ⟨0⟩, .lineAdded 1 ⟨⟨0⟩, "A...", .error, false, some 4, default⟩,
          .lineAdded 2 ⟨⟨2⟩, "A: failed", .error, false, some 4, default⟩, .failureCount 1] := by
  decide +kernel

end Ticket

end SetupBatch
