import SetupBatch.Proofs.Session

/-!
This module contains the figures of a batch: the counters, the failed tickets, the table of results
and the state of the gate tell the same numbers between any two calls.
-/

namespace SetupBatch

namespace Batch

/--
The figures that a batch shows agree with each other, if it was asked to run `n` tickets and `j`
retries were granted.
-/
structure Reconciled (n lastPass j budget : Nat) (b : Batch) : Prop where
  cumulative : b.options.counterMode = .cumulative → b.counts.started = n ∧
    b.counts.completed = n ∧ b.counts.succeeded + b.counts.needsReboot + b.counts.failed = n
  perPass : b.options.counterMode = .perPass → b.counts.started = lastPass ∧
    b.counts.completed = lastPass ∧ b.counts.isBalanced = true
  counts_failed : b.counts.failed = b.failed.length
  unresolved_length : b.summary.unresolved.length = b.failed.length
  results_failed : (b.summary.results.filter (·.outcome = .failed)).length = b.failed.length
  unresolved : b.summary.unresolved.Perm
    ((b.summary.results.filter (·.outcome = .failed)).map (·.message))
  passSize : b.standing.passSize = lastPass
  retryCycle : b.standing.retryCycle = j
  retryBudget : b.standing.retryBudget = budget
  le_budget : j ≤ budget
  state : (∃ used failed, b.state = .awaitingRetry used failed) ∨
    ∃ unresolved exhausted, b.state = .finished unresolved exhausted
  awaiting : ∀ used failed, b.state = .awaitingRetry used failed →
    used = b.standing.retryCycle ∧ used < b.standing.retryBudget ∧
      failed = b.failed.length ∧ 0 < failed
  finished : ∀ unresolved exhausted, b.state = .finished unresolved exhausted →
    unresolved = b.failed.length ∧
      (exhausted = true ↔ 0 < unresolved ∧ b.standing.retryCycle = b.standing.retryBudget)
  exhausted : b.summary.exhausted = true ↔
    0 < b.summary.unresolved.length ∧ b.summary.retryCycles = b.standing.retryBudget

namespace Settled

variable {b₀ b : Batch} {j : Nat}

theorem counts_failed (h : Settled b₀ j b) : b.counts.failed = b.failed.length := by
  have := h.inStep.regular.pass_failed
  unfold counts Standing.report
  split
  . exact this
  . exact this

theorem counts_cumulative (h : Settled b₀ j b) (hmode : b.options.counterMode = .cumulative)
    : b.counts.started = b₀.pending.length ∧ b.counts.completed = b₀.pending.length ∧
        b.counts.succeeded + b.counts.needsReboot + b.counts.failed = b₀.pending.length := by
  have hcounts : b.counts = b.standing.pass.addSuccesses b.standing.carried := by
    unfold counts
    rw [hmode]
    rfl
  -- of the earlier passes only the successes count, and each ticket succeeds once
  have hbalanced : b.standing.pass.completed = b.standing.pass.successes + b.standing.pass.failed :=
    h.inStep.regular.balanced
  have hconserved := h.conserved
  have hstarted := h.started
  have hcompleted := h.completed
  rw [hcounts]
  unfold Counts.addSuccesses
  unfold Counts.successes at *
  dsimp only
  omega

theorem counts_perPass (h : Settled b₀ j b) (hmode : b.options.counterMode = .perPass)
    : b.counts.started = b.standing.passSize ∧ b.counts.completed = b.standing.passSize ∧
        b.counts.isBalanced = true := by
  have hcounts : b.counts = b.standing.pass := by
    unfold counts
    rw [hmode]
    rfl
  rw [hcounts]
  exact ⟨h.started, h.completed, beq_iff_eq.2 h.inStep.regular.balanced⟩

theorem report_eq (h : Settled b₀ j b) : b.summary.results = b₀.pending.map fun t =>
    { index := t.index
      outcome := t.outcomeAt b₀.crew (t.retries b₀.crew j + 1)
      message := t.profile.wording.tell (t.outcomeAt b₀.crew (t.retries b₀.crew j + 1)) } := by
  show b.results.report = _
  unfold Results.report
  rw [h.results, List.filterMap_map]
  exact congrFun List.filterMap_eq_map' b₀.pending

theorem filter_report (h : Settled b₀ j b) : b.summary.results.filter (·.outcome = .failed) =
    (b₀.pending.filter fun t => (j : ℕ∞) < t.failures b₀.crew).map fun t =>
      { index := t.index, outcome := .failed, message := t.profile.wording.failed } := by
  rw [h.report_eq, List.filter_map]
  simp only [Function.comp_def, Ticket.outcomeAt_retries_eq_failed_iff]
  apply List.map_congr_left
  intro t ht
  rw [List.mem_filter, decide_eq_true_iff, ← Ticket.outcomeAt_retries_eq_failed_iff] at ht
  rw [ht.2]
  rfl

theorem unresolved_perm (h : Settled b₀ j b) : b.summary.unresolved.Perm
    ((b.summary.results.filter (·.outcome = .failed)).map (·.message)) := by
  have := h.failed_perm.map (·.profile.wording.failed)
  rw [List.map_map] at this
  rw [h.filter_report, List.map_map]
  exact this

end Settled

namespace Paused

variable {b₀ b : Batch} {j : Nat} {dismissed : Bool}

theorem awaiting (h : Paused b₀ j dismissed b) {used failed : Nat}
    (hstate : b.state = .awaitingRetry used failed)
    : used = j ∧ used < b₀.options.retryBudget ∧ failed = b.failed.length ∧ 0 < failed := by
  have hpaused := h.state_eq.symm.trans hstate
  rcases Gate.State.paused_cases b₀.options.retryBudget j b.failed.length dismissed
    with ⟨hoffers, heq⟩ | ⟨-, exhausted, heq⟩
  . rw [heq] at hpaused
    cases hpaused
    exact ⟨rfl, hoffers.2.1, rfl, hoffers.1⟩
  . rw [heq] at hpaused
    cases hpaused

theorem finished (h : Paused b₀ j dismissed b) {unresolved : Nat} {exhausted : Bool}
    (hstate : b.state = .finished unresolved exhausted)
    : unresolved = b.failed.length ∧
        (exhausted = true ↔ 0 < unresolved ∧ j = b₀.options.retryBudget) := by
  have hpaused := h.state_eq.symm.trans hstate
  unfold Gate.State.paused at hpaused
  split at hpaused
  . next hnone =>
    cases hpaused
    simp [hnone]
  . next hsome =>
    split at hpaused
    . next hdismissed =>
      have := h.in_time hdismissed
      cases hpaused
      simp
      omega
    . split at hpaused
      . cases hpaused
      . next hspent =>
        have := h.le_budget
        cases hpaused
        simp
        omega

theorem exhausted_iff (h : Paused b₀ j dismissed b)
    : b.gate.showsExhaustedBanner = true ↔ 0 < b.failed.length ∧ j = b₀.options.retryBudget := by
  unfold Gate.showsExhaustedBanner
  split
  . next unresolved exhausted hstate =>
    have hfinished := h.finished hstate
    rw [hfinished.2, hfinished.1]
  . next hstate =>
    have hoffers : Offers b₀ j dismissed b := by
      by_contra hnot
      rcases h.state_of_not_offers hnot with ⟨exhausted, hfinished⟩
      exact hstate _ _ hfinished
    have := hoffers.2.1
    simp only [Bool.false_eq_true, false_iff]
    omega

theorem reconciled (h : Paused b₀ j dismissed b)
    : b.Reconciled b₀.pending.length
        (b₀.pending.countP fun t => (j : ℕ∞) ≤ t.failures b₀.crew) j b₀.options.retryBudget := by
  have hpassSize : b.standing.passSize =
      b₀.pending.countP fun t => (j : ℕ∞) ≤ t.failures b₀.crew := by
    rw [h.passSize]
    simp only [Ticket.retries_eq_self_iff]
  have hunresolved := h.unresolved_perm.length_eq
  rw [List.length_map] at hunresolved
  have hlength : b.summary.unresolved.length = b.failed.length := List.length_map _
  constructor
  . exact h.counts_cumulative
  . rw [← hpassSize]
    exact h.counts_perPass
  . exact h.counts_failed
  . exact hlength
  . rw [← hunresolved, hlength]
  . exact h.unresolved_perm
  . exact hpassSize
  . exact h.retryCycle
  . exact h.retryBudget
  . exact h.le_budget
  . rcases Gate.State.paused_cases b₀.options.retryBudget j b.failed.length dismissed
      with ⟨-, hstate⟩ | ⟨-, exhausted, hstate⟩
    . exact .inl ⟨_, _, h.state_eq.trans hstate⟩
    . exact .inr ⟨_, exhausted, h.state_eq.trans hstate⟩
  . intro used failed hstate
    rw [h.retryCycle, h.retryBudget]
    exact h.awaiting hstate
  . intro unresolved exhausted hstate
    rw [h.retryCycle, h.retryBudget]
    exact h.finished hstate
  . have hretryCycles : b.summary.retryCycles = j := h.retryCycle
    rw [hlength, hretryCycles, h.retryBudget]
    exact h.exhausted_iff

end Paused

/-- Whatever is asked of a batch, its figures agree once the first pass has been asked for. -/
theorem reconciled_ofCalls {id : BatchId} {options : Options} {tasks : List Task}
    {channel : Option String} {clock : Nat → Instant} {b₀ : Batch}
    (hnew : Batch.new id options tasks channel clock = .ok b₀) (requests : List Request)
    (hruns : (Session.ofCalls b₀ requests).runs ≠ 0)
    : let s := Session.ofCalls b₀ requests
      s.batch.options = options ∧
        s.batch.Reconciled (ticketsFor options.target tasks).length
          ((ticketsFor options.target tasks).countP fun t =>
            (s.retries : ℕ∞) ≤ t.failures s.batch.crew)
          s.retries options.retryBudget := by
  intro s
  have hstands : s.Stands b₀ := (Session.stands_ofCalls (fresh_new hnew) requests).1
  rcases eq_of_new hnew with ⟨slots, rfl⟩
  cases hstands with
  | fresh hzero _ _ _ => exact absurd hzero hruns
  | paused _ hpaused =>
    refine ⟨hpaused.options, ?_⟩
    rw [hpaused.crew]
    exact hpaused.reconciled

theorem reconciled_sample
    : let s := Session.ofCalls sample [.run .queued]
      s.batch.Reconciled 2
        (sample.pending.countP fun t => ((0 : Nat) : ℕ∞) ≤ t.failures s.batch.crew) 0 1 := by
  intro s
  have hrun := (fresh_new new_sample).serve_run .queued
  have hruns : s.runs = 1 := Session.accepted_of_ok rfl hrun.1
  have hretries : s.retries = 0 := Session.accepted_of_kind rfl
  have hne : s.runs ≠ 0 := by omega
  have hreconciled := (reconciled_ofCalls new_sample [.run .queued] hne).2
  rw [hretries] at hreconciled
  exact hreconciled

end Batch

end SetupBatch
