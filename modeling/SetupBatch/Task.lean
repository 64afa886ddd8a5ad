import SetupBatch.Fault
import SetupBatch.Notice
import SetupBatch.Wording
/-!
This module contains tasks: what a task declares about itself, and what each attempt at it does.
-/

namespace SetupBatch

structure Profile where
  wording : Wording
  requiresElevation : Bool := false
  requiresReboot : Bool := false
  dependsOnPrerequisite : Bool := false
  targetName : Option String := none
  errorNotice : Draft := .error wording.failed
  rebootNotice : Draft := .reboot wording.needsReboot
  deriving DecidableEq, Inhabited

/-- One thing that a running task does. Notices are named by key in the shared notebook. -/
inductive Effect where
  | sleep (ms : Nat)
  | say (text : String) (severity : Severity)
  | write (key : String) (content : Draft)
  | post (key : String)
  | withdraw (key : String)
  deriving DecidableEq, Inhabited

inductive Ending where
  | outcome (o : Outcome)
  | fault (f : Fault)
  | crash (payload : Option String)
  deriving DecidableEq, Inhabited

namespace Ending

def verdict (e : Ending) (requiresReboot : Bool) : Outcome × Option String :=
  match e with
  | .outcome o => (o.withReboot requiresReboot, none)
  | .fault f => (.failed, some f.message)
  | .crash payload => (.failed, some ("Task panicked: " ++ payload.getD "unknown panic"))

end Ending

structure Attempt where
  effects : List Effect := []
  ending : Ending := .outcome .succeeded
  deriving DecidableEq, Inhabited

inductive Mode where
  | normal
  | elevated (channel : String)
  | refused
  deriving DecidableEq, Inhabited

/-- A unit of setup work. Attempts are numbered from one. A task without an elevated operation of
its own runs the normal one in its place. -/
structure Task where
  profile : Profile
  attempt : Nat → Attempt
  elevatedAttempt : Option (String → Nat → Attempt) := none

namespace Task

def runsElevated (t : Task) : Mode → Bool
  | .elevated _ => t.elevatedAttempt.isSome
  | _ => false

def play (t : Task) (mode : Mode) (number : Nat) : Attempt :=
  match mode with
  | .normal => t.attempt number
  | .elevated channel =>
    match t.elevatedAttempt with
    | some attempt => attempt channel number
    | none => t.attempt number
  | .refused =>
    { ending := .fault ⟨.elevationUnavailable,
        s!"'{t.profile.wording.executing}' requires elevation and no channel was supplied"⟩ }

end Task

end SetupBatch
