import SetupBatch.Document.Form
import SetupBatch.Document.Toml
import SetupBatch.Task
/-!
This module contains plans: lists of tasks whose behaviour is written down, so that how long each
takes and how many of its attempts fail is known beforehand.
-/

namespace SetupBatch

def defaultDuration : Nat := 250

structure PlannedTask where
  name : String
  duration : Nat := defaultDuration
  failAttempts : Nat := 0
  crashes : Bool := false
  requiresReboot : Bool := false
  dependsOnPrerequisite : Bool := false
  requiresElevation : Bool := false
  targetName : Option String := none
  deriving DecidableEq, Inhabited

structure Plan where
  target : Option String := none
  tasks : List PlannedTask := []
  deriving DecidableEq, Inhabited

namespace PlannedTask

def profile (t : PlannedTask) : Profile where
  wording := .ofLabel t.name
  requiresElevation := t.requiresElevation
  requiresReboot := t.requiresReboot
  dependsOnPrerequisite := t.dependsOnPrerequisite
  targetName := t.targetName

def attempt (t : PlannedTask) (number : Nat) : Attempt :=
  if number ≤ t.failAttempts then
    { effects := [.sleep t.duration]
      ending := if t.crashes then .crash (some s!"{t.name} crashed on attempt {number}")
        else .fault ⟨.taskExecution, s!"{t.name} failed on attempt {number}"⟩ }
  else
    { effects := .sleep t.duration ::
        if 1 < number then [.say s!"{t.name} recovered on attempt {number}" .info] else [] }

def elevatedAttempt (t : PlannedTask) (channel : String) (number : Nat) : Attempt :=
  let attempt := t.attempt number
  { attempt with effects := .say s!"{t.name} running through {channel}" .info :: attempt.effects }

def task (t : PlannedTask) : Task where
  profile := t.profile
  attempt := t.attempt
  elevatedAttempt := some t.elevatedAttempt

end PlannedTask

open Document Form

instance : Form PlannedTask where
  read? d t := do
    let [name, duration, failAttempts, crashes, reboot, dependent, elevation, target] ←
      t.fields? d ["name", "duration_ms", "fail_attempts", "panic", "requires_reboot",
        "depends_on_prerequisite", "requires_elevation", "target"] | none
    return {
      name := ← name.required Tree.string?
      duration := ← duration.withDefault defaultDuration Tree.word64?
      failAttempts := ← failAttempts.withDefault 0 Tree.word32?
      crashes := ← crashes.withDefault false Tree.flag?
      requiresReboot := ← reboot.withDefault false Tree.flag?
      dependsOnPrerequisite := ← dependent.withDefault false Tree.flag?
      requiresElevation := ← elevation.withDefault false Tree.flag?
      targetName := ← target.withDefault none (Tree.option? Tree.string?) }
  write t := .record [
    ("name", .ofString t.name), ("duration_ms", .ofNat t.duration),
    ("fail_attempts", .ofNat t.failAttempts), ("panic", .flag t.crashes),
    ("requires_reboot", .flag t.requiresReboot),
    ("depends_on_prerequisite", .flag t.dependsOnPrerequisite),
    ("requires_elevation", .flag t.requiresElevation),
    ("target", .ofOption .ofString t.targetName)]

instance : Form Plan where
  read? d t := do
    let [target, tasks] ← t.fields? d ["target", "task"] | none
    return {
      target := ← target.withDefault none (Tree.option? Tree.string?)
      tasks := ← tasks.withDefault [] (Tree.list? (read? d)) }
  write p := .record [
    ("target", .ofOption .ofString p.target), ("task", .list (p.tasks.map write))]

namespace Plan

def ofToml? (text : String) : Option Plan := (Toml.read? text).bind (read? Toml.dialect)

def setupTarget (p : Plan) : Target :=
  match p.target with
  | some name => .remote name
  | none => .here

end Plan

end SetupBatch
