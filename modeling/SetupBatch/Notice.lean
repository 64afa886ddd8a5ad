import SetupBatch.Outcome
/-!
This module contains notices: messages with an identity that stand beside the feed until someone
removes them. A `Draft` is the content of a notice; raising it gives it an identity. Tasks may
refer to notices by key through a shared `Notebook`.
-/

namespace SetupBatch

/-- The identity of a notice: those raised by the bookkeeping and those written by tasks are
numbered apart, so that no two notices share one. -/
inductive NoticeId where
  | raised (n : Nat)
  | written (n : Nat)
  deriving DecidableEq, Inhabited

structure Draft where
  title : String
  severity : Severity
  detail : Option String := none
  deriving DecidableEq, Inhabited

namespace Draft

def error (title : String) : Draft := { title, severity := .error }

def reboot (title : String) : Draft := { title, severity := .warning }

def withDetail (d : Draft) (detail : String) : Draft := { d with detail := some detail }

end Draft

structure Notice where
  id : NoticeId
  content : Draft
  deriving DecidableEq, Inhabited

inductive NoticeRequest where
  | add
  | remove
  deriving DecidableEq, Inhabited

namespace NoticeRequest

def name : NoticeRequest → String
  | .add => "add"
  | .remove => "remove"

def ofName? (s : String) : Option NoticeRequest := [add, remove].find? (·.name == s)

end NoticeRequest

structure Notebook where
  pages : List (String × Notice) := []
  written : Nat := 0
  deriving Inhabited

namespace Notebook

def write (b : Notebook) (key : String) (content : Draft) : Notice × Notebook :=
  let notice := ⟨.written b.written, content⟩
  (notice, { pages := (key, notice) :: b.pages, written := b.written + 1 })

/-- The notice remembered under the key; an unknown key becomes a new info notice titled with
the key. -/
def lookUp (b : Notebook) (key : String) : Notice × Notebook :=
  match b.pages.lookup key with
  | some notice => (notice, b)
  | none => b.write key { title := key, severity := .info }

end Notebook

end SetupBatch
