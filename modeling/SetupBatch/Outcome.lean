/-!
This module contains the words of a batch: how an attempt at a task ends, how urgent a line of the
feed is, and how counters are reported across passes. Each is written with one name and may be
read under a few more, whatever the case of their letters.
-/

namespace SetupBatch

inductive Outcome where
  | succeeded
  | needsReboot
  | failed
  deriving DecidableEq, Inhabited

inductive Severity where
  | info
  | warning
  | error
  | success
  deriving DecidableEq, Inhabited

inductive CounterMode where
  | cumulative
  | perPass
  deriving DecidableEq, Inhabited

structure UnknownWord where
  kind : String
  word : String
  deriving DecidableEq

def UnknownWord.message (u : UnknownWord) : String := s!"Invalid {u.kind}: {u.word}"

namespace Outcome

def name : Outcome → String
  | .succeeded => "succeeded"
  | .needsReboot => "succeeded_needs_reboot"
  | .failed => "failed"

def all : List Outcome := [.succeeded, .needsReboot, .failed]

def ofName? (s : String) : Option Outcome := all.find? (·.name == s)

def parse (s : String) : Except UnknownWord Outcome :=
  match s.toLower with
  | "succeeded" | "success" => .ok .succeeded
  | "succeeded_needs_reboot" | "needs_reboot" | "needs-reboot" => .ok .needsReboot
  | "failed" | "failure" => .ok .failed
  | _ => .error ⟨"outcome", s⟩

def isSuccess (o : Outcome) : Bool := o != .failed

def severity : Outcome → Severity
  | .succeeded => .success
  | .needsReboot => .warning
  | .failed => .error

def withReboot (o : Outcome) (requiresReboot : Bool) : Outcome :=
  if o = .succeeded ∧ requiresReboot then .needsReboot else o

theorem ofName?_name (o : Outcome) : ofName? o.name = some o := by cases o <;> rfl

end Outcome

namespace Severity

def name : Severity → String
  | .info => "info"
  | .warning => "warning"
  | .error => "error"
  | .success => "success"

def all : List Severity := [.info, .warning, .error, .success]

def ofName? (s : String) : Option Severity := all.find? (·.name == s)

def parse (s : String) : Except UnknownWord Severity :=
  match s.toLower with
  | "info" => .ok .info
  | "warning" | "warn" => .ok .warning
  | "error" => .ok .error
  | "success" => .ok .success
  | _ => .error ⟨"severity", s⟩

theorem ofName?_name (s : Severity) : ofName? s.name = some s := by cases s <;> rfl

end Severity

namespace CounterMode

def name : CounterMode → String
  | .cumulative => "cumulative"
  | .perPass => "per_pass"

def all : List CounterMode := [.cumulative, .perPass]

def ofName? (s : String) : Option CounterMode := all.find? (·.name == s)

def parse (s : String) : Except UnknownWord CounterMode :=
  match s.toLower with
  | "cumulative" => .ok .cumulative
  | "per_pass" | "per-pass" | "perpass" => .ok .perPass
  | _ => .error ⟨"counter mode", s⟩

theorem ofName?_name (m : CounterMode) : ofName? m.name = some m := by cases m <;> rfl

end CounterMode

end SetupBatch
