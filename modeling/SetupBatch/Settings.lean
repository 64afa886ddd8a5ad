import SetupBatch.Document.Form
import SetupBatch.Document.Toml
/-!
This module contains the settings that a directory keeps for all batches that run in it, and the
file format in which they are kept. What a file leaves out has its default.
-/

namespace SetupBatch

structure RetrySettings where
  budget : Nat := defaultRetryBudget
  counterMode : CounterMode := .cumulative
  budget_le : budget ≤ maxWord32 := by first | exact defaultRetryBudget_le | decide
  deriving DecidableEq, Inhabited

structure ExecutionSettings where
  maxConcurrency : Option Nat := none
  strictElevation : Bool := false
  deriving DecidableEq, Inhabited

structure Settings where
  retry : RetrySettings := {}
  execution : ExecutionSettings := {}
  deriving DecidableEq, Inhabited

open Document Form

instance : Form RetrySettings where
  read? d t := do
    let [budget, mode] ← t.fields? d ["budget", "counter_mode"] | none
    let ⟨budget, budget_le⟩ ←
      budget.withDefault ⟨defaultRetryBudget, defaultRetryBudget_le⟩ (Tree.bounded? maxWord32)
    return { budget, budget_le, counterMode := ← mode.withDefault .cumulative (read? d) }
  write r := .record [("budget", .ofNat r.budget), ("counter_mode", write r.counterMode)]

instance : Form ExecutionSettings where
  read? d t := do
    let [max, strict] ← t.fields? d ["max_concurrency", "strict_elevation"] | none
    return {
      maxConcurrency := ← max.withDefault none (Tree.option? Tree.word64?)
      strictElevation := ← strict.withDefault false Tree.flag? }
  write e := .record [
    ("max_concurrency", .ofOption .ofNat e.maxConcurrency),
    ("strict_elevation", .flag e.strictElevation)]

instance : Form Settings where
  read? d t := do
    let [retry, execution] ← t.fields? d ["retry", "execution"] | none
    return {
      retry := ← retry.withDefault {} (read? d)
      execution := ← execution.withDefault {} (read? d) }
  write s := .record [("retry", write s.retry), ("execution", write s.execution)]

namespace Settings

def ofToml (text : String) : Except Fault Settings :=
  match (Toml.read? text).bind (read? Toml.dialect) with
  | some settings => .ok settings
  | none => .error ⟨.config, "Failed to parse config file"⟩

def toToml (s : Settings) : String :=
  let max := match s.execution.maxConcurrency with
    | some max => s!"max_concurrency = {max}\n"
    | none => ""
  s!"[retry]\nbudget = {s.retry.budget}\ncounter_mode = \"" ++ s.retry.counterMode.name ++
    "\"\n\n[execution]\n" ++ max ++ s!"strict_elevation = {s.execution.strictElevation}\n"

def options (s : Settings) (target : Target) : Options :=
  let o : Options := {
    retryBudget := s.retry.budget, counterMode := s.retry.counterMode, target
    strictElevation := s.execution.strictElevation, retryBudget_le := s.retry.budget_le }
  match s.execution.maxConcurrency with
  | some max => o.withMaxConcurrency max
  | none => o

end Settings

end SetupBatch
