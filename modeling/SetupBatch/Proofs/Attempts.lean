import Mathlib.Data.ENat.Lattice
import Mathlib.Order.CompletePartialOrder
import SetupBatch.Pool

/-!
This module contains the attempts at a ticket: the outcome of each of them, how many of them fail
before the first that does not, and how many of the retries of a batch the ticket takes part in.
-/

namespace SetupBatch

def Crew.callsFor (crew : Crew) (p : Profile) : Nat := if crew.mode p = .refused then 0 else 1

namespace Ticket

variable (crew : Crew) (t : Ticket)

def attemptAt (k : Nat) : Attempt := t.task.play (crew.mode t.profile) k

def outcomeAt (k : Nat) : Outcome :=
  ((t.attemptAt crew k).ending.verdict t.profile.requiresReboot).1

/-- How many attempts fail before the first that does not. -/
noncomputable def failures : ℕ∞ := ⨅ (k : Nat) (_ : t.outcomeAt crew (k + 1) ≠ .failed), (k : ℕ∞)

/-- In how many of the first `j` retries the ticket runs. -/
def retries : Nat → Nat
  | 0 => 0
  | j + 1 => if t.outcomeAt crew (retries j + 1) = .failed then retries j + 1 else retries j

def after (j : Nat) : Ticket := t.withOutcome (t.outcomeAt crew (t.retries crew j + 1))

theorem reset_withOutcome {t : Ticket} (h : t.outcome = none) (o : Outcome)
    : (t.withOutcome o).reset = t := by
  unfold withOutcome reset
  rw [← h]

theorem after_succ_of_ne {j : Nat} (h : t.outcomeAt crew (t.retries crew j + 1) ≠ .failed)
    : t.after crew (j + 1) = t.after crew j := by
  unfold after
  rw [retries, if_neg h]

theorem attemptAt_mul_callsFor (n : Nat)
    : t.attemptAt crew (crew.callsFor t.profile * n + 1) = t.attemptAt crew (n + 1) := by
  unfold Crew.callsFor attemptAt
  split
  . next h =>
    -- a refused attempt runs no code, but it is the same every time
    rw [h]
    rfl
  . rw [Nat.one_mul]

theorem outcomeAt_mul_callsFor (n : Nat)
    : t.outcomeAt crew (crew.callsFor t.profile * n + 1) = t.outcomeAt crew (n + 1) := by
  unfold outcomeAt
  rw [attemptAt_mul_callsFor]

theorem retries_le (j : Nat) : t.retries crew j ≤ j := by
  induction j with
  | zero => exact Nat.le_refl 0
  | succ j ih =>
    unfold retries
    split <;> omega

theorem retries_succ_of_failed {j : Nat} (h : t.outcomeAt crew (t.retries crew j + 1) = .failed)
    : t.retries crew (j + 1) = t.retries crew j + 1 := by
  rw [retries, if_pos h]

theorem retries_succ_of_ne {j : Nat} (h : t.outcomeAt crew (t.retries crew j + 1) ≠ .failed)
    : t.retries crew (j + 1) = t.retries crew j := by
  rw [retries, if_neg h]

theorem failed_of_lt_retries {j k : Nat} (h : k < t.retries crew j)
    : t.outcomeAt crew (k + 1) = .failed := by
  induction j with
  | zero => simp [retries] at h
  | succ j ih =>
    unfold retries at h
    split at h
    . next hfailed =>
      cases Nat.lt_succ_iff_lt_or_eq.1 h with
      | inl hlt => exact ih hlt
      | inr heq => rw [heq, hfailed]
    . exact ih h

theorem retries_eq_of_failed {j : Nat} (h : t.outcomeAt crew (t.retries crew j + 1) = .failed)
    : t.retries crew j = j := by
  induction j with
  | zero => rfl
  | succ j ih =>
    by_cases hj : t.outcomeAt crew (t.retries crew j + 1) = .failed
    . rw [t.retries_succ_of_failed crew hj, ih hj]
    . rw [t.retries_succ_of_ne crew hj] at h
      exact absurd h hj

theorem retries_succ_eq_iff {j : Nat}
    : t.retries crew (j + 1) = j + 1 ↔ t.outcomeAt crew (t.retries crew j + 1) = .failed := by
  constructor
  . intro h
    by_contra hne
    rw [t.retries_succ_of_ne crew hne] at h
    have := t.retries_le crew j
    omega
  . intro h
    rw [t.retries_succ_of_failed crew h, t.retries_eq_of_failed crew h]

theorem le_failures_iff {j : Nat}
    : (j : ℕ∞) ≤ t.failures crew ↔ ∀ k < j, t.outcomeAt crew (k + 1) = .failed := by
  unfold failures
  rw [le_iInf₂_iff]
  constructor
  . intro h k hk
    by_contra hne
    have := Nat.cast_le.1 (h k hne)
    omega
  . intro h k hne
    apply Nat.cast_le.2
    by_contra hlt
    exact hne (h k (by omega))

theorem lt_failures_iff {j : Nat}
    : (j : ℕ∞) < t.failures crew ↔ ∀ k ≤ j, t.outcomeAt crew (k + 1) = .failed := by
  rw [← ENat.natCast_add_one_le_iff, ← Nat.cast_add_one, le_failures_iff]
  simp only [Nat.lt_add_one_iff]

theorem outcomeAt_retries_eq_failed_iff {j : Nat}
    : t.outcomeAt crew (t.retries crew j + 1) = .failed ↔ (j : ℕ∞) < t.failures crew := by
  rw [lt_failures_iff]
  constructor
  . -- the attempt is the `j + 1`-th, since no retry has left the ticket out
    intro h k hk
    cases Nat.lt_or_eq_of_le hk with
    | inl hlt =>
      rw [← t.retries_eq_of_failed crew h] at hlt
      exact t.failed_of_lt_retries crew hlt
    | inr heq =>
      rw [t.retries_eq_of_failed crew h] at h
      rw [heq, h]
  . intro h
    exact h _ (t.retries_le crew j)

theorem retries_eq_min (j : Nat) : (t.retries crew j : ℕ∞) = min (j : ℕ∞) (t.failures crew) := by
  apply le_antisymm
  . apply le_min (Nat.cast_le.2 (t.retries_le crew j))
    rw [le_failures_iff]
    intro k hk
    exact t.failed_of_lt_retries crew hk
  . -- either the ticket took part in every retry, or its latest attempt bounds its failures
    by_cases h : t.outcomeAt crew (t.retries crew j + 1) = .failed
    . rw [t.retries_eq_of_failed crew h]
      exact min_le_left _ _
    . apply (min_le_right _ _).trans
      exact iInf₂_le (t.retries crew j) h

theorem retries_eq_self_iff {j : Nat}
    : t.retries crew j = j ↔ (j : ℕ∞) ≤ t.failures crew := by
  rw [← min_eq_left_iff, ← retries_eq_min, Nat.cast_inj]

end Ticket

end SetupBatch
