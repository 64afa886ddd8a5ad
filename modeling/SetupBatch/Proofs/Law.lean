import SetupBatch.Proofs.Session

/-!
This module contains the law of a batch: how often its tasks are attempted, what its results and its
failed tickets are, and how its gate stands, after any number of granted retries.
-/

namespace SetupBatch

namespace Batch

variable {b₀ b : Batch} {j : Nat} {dismissed : Bool}

theorem Settled.failed_pos_iff (h : Settled b₀ j b)
    : 0 < b.failed.length ↔ ∃ t ∈ b₀.pending, (j : ℕ∞) < t.failures b₀.crew := by
  rw [h.failed_perm.length_eq, List.length_map, List.length_pos_iff_exists_mem]
  simp only [List.mem_filter, decide_eq_true_iff]

end Batch

end SetupBatch
