import SetupBatch.Outcome
import SetupBatch.Word
/-!
This module contains the options of a batch: what it configures and how it runs.
-/

namespace SetupBatch

inductive Target where
  | here
  | remote (name : String)
  deriving DecidableEq, Inhabited

def Target.isRemote : Target → Bool
  | .here => false
  | .remote _ => true

def defaultRetryBudget : Nat := 1

theorem defaultRetryBudget_le : defaultRetryBudget ≤ maxWord32 := by decide

structure Options where
  retryBudget : Nat := defaultRetryBudget
  counterMode : CounterMode := .cumulative
  target : Target := .here
  maxConcurrency : Option Nat := none
  strictElevation : Bool := false
  retryBudget_le : retryBudget ≤ maxWord32 := by first | exact defaultRetryBudget_le | decide
  deriving Inhabited

namespace Options

/-- Bounds the number of retries; no budget is larger than a word of 32 bits can hold. -/
def withRetryBudget (o : Options) (budget : Nat) : Options :=
  { o with
    retryBudget := min budget maxWord32
    retryBudget_le := Nat.min_le_right budget maxWord32 }

def withCounterMode (o : Options) (mode : CounterMode) : Options := { o with counterMode := mode }

def withTarget (o : Options) (target : Target) : Options := { o with target }

def withMaxConcurrency (o : Options) (max : Nat) : Options :=
  { o with maxConcurrency := some (Nat.max max 1) }

def withStrictElevation (o : Options) (strict : Bool) : Options :=
  { o with strictElevation := strict }

end Options

end SetupBatch
