import SetupBatch.Proofs.Perform
import SetupBatch.Proofs.Results

/-!
This module contains the verification of the calls on a batch. Between two calls, the batch is what
the number of its retries says, and every call that the gate accepts goes through.
-/

namespace SetupBatch

namespace Batch

structure AtRest (b₀ b : Batch) : Prop where
  ascending : Ascending b₀.pending
  outcome : ∀ t ∈ b₀.pending, t.outcome = none
  crew : b.crew = b₀.crew
  options : b.options = b₀.options
  inStep : b.board.InStep
  running : b.board.feed.running = []

structure Fresh (b₀ b : Batch) : Prop extends AtRest b₀ b where
  pending : b.pending = b₀.pending
  results : b.results = []
  gate : b.gate = { budget := b₀.options.retryBudget }
  tally : b.board.tally = .new b₀.options.retryBudget
  begun : ∀ i, b.board.begun i = 0
  called : ∀ i, b.shared.called i = 0

/-- A batch once the pass of its `j`-th retry has ended. -/
structure Settled (b₀ : Batch) (j : Nat) (b : Batch) : Prop extends AtRest b₀ b where
  results : b.results = b₀.pending.map (·.after b₀.crew j)
  drained : b.board.tally.isDrained = true
  begun : ∀ t ∈ b₀.pending, b.board.begun t.index = t.retries b₀.crew j + 1
  begun_other : ∀ i, i ∉ b₀.pending.map (·.index) → b.board.begun i = 0
  called : ∀ t ∈ b₀.pending,
    b.shared.called t.index = b₀.crew.callsFor t.profile * (t.retries b₀.crew j + 1)
  called_other : ∀ i, i ∉ b₀.pending.map (·.index) → b.shared.called i = 0
  mem_failed : ∀ u, u ∈ b.failed ↔ ∃ t ∈ b₀.pending,
    t.outcomeAt b₀.crew (t.retries b₀.crew j + 1) = .failed ∧ u = t.withOutcome .failed
  started : b.standing.pass.started = b.standing.passSize
  completed : b.standing.pass.completed = b.standing.passSize
  passSize : b.standing.passSize = b₀.pending.countP fun t => t.retries b₀.crew j = j
  conserved : b.standing.carried.successes + b.standing.passSize = b₀.pending.length
  retryCycle : b.standing.retryCycle = j
  retryBudget : b.standing.retryBudget = b₀.options.retryBudget

/-- A settled batch whose gate is between two passes. -/
structure Paused (b₀ : Batch) (j : Nat) (dismissed : Bool) (b : Batch) : Prop
    extends Settled b₀ j b where
  le_budget : j ≤ b₀.options.retryBudget
  in_time : dismissed = true → j < b₀.options.retryBudget
  gate : b.gate =
    { budget := b₀.options.retryBudget
      state := .paused b₀.options.retryBudget j b.failed.length dismissed }

namespace AtRest

variable {b₀ b b' : Batch}

theorem alike (h : AtRest b₀ b) (ha : b.Alike b') : AtRest b₀ b' where
  ascending := h.ascending
  outcome := h.outcome
  crew := by rw [ha.rest, h.crew]
  options := by rw [ha.rest, h.options]
  inStep := ha.board.inStep h.inStep
  running := by rw [ha.board.running, h.running]

theorem passDone (h : AtRest b₀ b) {b₁ : Batch} (hd : b₁.PassDone b') (hcrew : b₁.crew = b.crew)
    (hoptions : b₁.options = b.options) : AtRest b₀ b' where
  ascending := h.ascending
  outcome := h.outcome
  crew := by rw [hd.rest, hcrew, h.crew]
  options := by rw [hd.rest, hoptions, h.options]
  inStep := hd.inStep
  running := hd.running

end AtRest

theorem PassDone.ascending_results {b b' : Batch} (h : b.PassDone b')
    (hresults : Ascending b.results) : Ascending b'.results := by
  rcases h.results with ⟨ts, -, hstore⟩
  rw [hstore]
  exact Results.ascending_store hresults _

theorem PassDone.mem_results {b b' : Batch} (h : b.PassDone b') (hresults : Ascending b.results)
    (hindices : (b.pending.map (·.index)).Nodup) (u : Ticket)
    : u ∈ b'.results ↔ (∃ t ∈ b.pending, t.next b.crew b.shared = u) ∨
        u ∈ b.results ∧ u.index ∉ b.pending.map (·.index) := by
  rcases h.results with ⟨ts, hperm, hstore⟩
  have hmap : (ts.map (·.next b.crew b.shared)).map (·.index) = ts.map (·.index) := by
    rw [List.map_map]
    rfl
  have hindices' : (ts.map (·.index)).Nodup := (hperm.map _).nodup_iff.2 hindices
  rw [hstore, Results.mem_store hresults (hmap ▸ hindices'), hmap, (hperm.map _).mem_iff]
  simp only [List.mem_map, hperm.mem_iff]

namespace Fresh

variable {b₀ b b' : Batch}

theorem alike (h : Fresh b₀ b) (ha : b.Alike b') (hgate : b'.gate = b.gate) : Fresh b₀ b' where
  toAtRest := h.toAtRest.alike ha
  pending := by rw [ha.rest, h.pending]
  results := by rw [ha.rest, h.results]
  gate := by rw [hgate, h.gate]
  tally := by rw [ha.board.tally, h.tally]
  begun i := by rw [ha.board.begun, h.begun]
  called i := by rw [Shared.called_congr ha.calls, h.called]

theorem primed (h : Fresh b₀ b) (gate : Gate) : { b with gate }.Primed where
  heard := h.inStep.heard
  sound := h.inStep.sound
  running := h.running
  pass := by
    unfold standing
    rw [h.tally]
    rfl
  failed := by
    unfold failed
    rw [h.tally]
    rfl
  indices := by
    dsimp only
    rw [h.pending]
    exact h.ascending.indices

theorem settled_of_nil (h : Fresh b₀ b) (hnil : b₀.pending = []) : Settled b₀ 0 b := by
  constructor
  case toAtRest => exact h.toAtRest
  case begun_other => exact fun i _ => h.begun i
  case called_other => exact fun i _ => h.called i
  all_goals simp [hnil, h.results, failed, standing, h.tally, Tally.new, Tally.isDrained,
    Counts.successes]

theorem nextAttempt (h : Fresh b₀ b) (i : Nat) : b.shared.nextAttempt i = 1 :=
  congrArg (· + 1) (h.called i)

theorem settled (h : Fresh b₀ b) {gate : Gate} (hd : { b with gate }.PassDone b')
    : Settled b₀ 0 b' := by
  have hpending : ∀ t, t ∈ b.pending ↔ t ∈ b₀.pending := by
    intro t
    rw [h.pending]
  constructor
  . exact h.toAtRest.passDone hd rfl rfl
  . have hresults : Ascending b.results := by rw [h.results]; exact List.Pairwise.nil
    apply (hd.ascending_results hresults).eq_of_mem_iff
      (h.ascending.map (·.after b₀.crew 0) fun _ => rfl)
    intro u
    rw [hd.mem_results hresults (h.pending ▸ h.ascending.indices)]
    simp only [h.results, List.not_mem_nil, false_and, or_false, hpending, Ticket.next,
      h.nextAttempt, h.crew, List.mem_map]
    rfl
  . exact hd.drained
  . intro t ht
    rw [hd.begun, if_pos (List.mem_map_of_mem ((hpending t).2 ht))]
    exact congrArg (· + 1) (h.begun _)
  . intro i hi
    rw [hd.begun, if_neg (h.pending ▸ hi)]
    exact h.begun i
  . intro t ht
    rw [hd.called t ((hpending t).2 ht), ← h.crew]
    refine (congrArg₂ (· + ·) (h.called t.index) rfl).trans ?_
    rw [Nat.zero_add]
    exact (Nat.mul_one _).symm
  . intro i hi
    rw [hd.called_other i (h.pending ▸ hi)]
    exact h.called i
  . intro u
    rw [hd.mem_failed]
    simp only [hpending, h.nextAttempt, h.crew]
    rfl
  . rw [hd.started, hd.passSize]
  . rw [hd.completed, hd.passSize]
  . rw [hd.passSize, eq_comm]
    dsimp only
    rw [h.pending, List.countP_eq_length]
    intro t _
    rfl
  . rw [hd.passSize, hd.carried]
    unfold standing
    rw [h.tally]
    dsimp only
    rw [h.pending]
    exact Nat.zero_add _
  . rw [hd.retryCycle]
    unfold standing
    rw [h.tally]
    rfl
  . rw [hd.retryBudget]
    unfold standing
    rw [h.tally]
    rfl

end Fresh

def again (b : Batch) (gate : Gate) : Batch :=
  { b with gate, pending := b.failed.map Ticket.reset }.withBoard b.board.clearNotices.takeFailed.2

theorem begun_again (b : Batch) (gate : Gate) (i : Nat)
    : (b.again gate).board.begun i = b.board.begun i := by
  have := (Board.Alike.clearNotices b.board).begun i
  rw [← this]
  apply Stream.countP_tell
  rfl

namespace Settled

variable {b₀ b b' : Batch} {j : Nat}

theorem alike (h : Settled b₀ j b) (ha : b.Alike b') : Settled b₀ j b' := by
  have hfailed : b'.failed = b.failed := by
    unfold failed
    rw [ha.board.tally]
  have hstanding : b'.standing = b.standing := by
    unfold standing
    rw [ha.board.tally]
  constructor
  . exact h.toAtRest.alike ha
  . rw [ha.rest, h.results]
  . rw [ha.board.tally, h.drained]
  . intro t ht
    rw [ha.board.begun, h.begun t ht]
  . intro i hi
    rw [ha.board.begun, h.begun_other i hi]
  . intro t ht
    rw [Shared.called_congr ha.calls, h.called t ht]
  . intro i hi
    rw [Shared.called_congr ha.calls, h.called_other i hi]
  . rw [hfailed]
    exact h.mem_failed
  . rw [hstanding, h.started]
  . rw [hstanding, h.completed]
  . rw [hstanding, h.passSize]
  . rw [hstanding, h.conserved]
  . rw [hstanding, h.retryCycle]
  . rw [hstanding, h.retryBudget]

section Again

variable (h : Settled b₀ j b) (gate : Gate)

include h

theorem mem_again (t : Ticket) : t ∈ (b.again gate).pending ↔
    t ∈ b₀.pending ∧ t.outcomeAt b₀.crew (t.retries b₀.crew j + 1) = .failed := by
  show t ∈ b.failed.map Ticket.reset ↔ _
  rw [List.mem_map]
  constructor
  . rintro ⟨u, hu, rfl⟩
    rcases (h.mem_failed u).1 hu with ⟨t, ht, hfailed, rfl⟩
    rw [Ticket.reset_withOutcome (h.outcome t ht)]
    exact ⟨ht, hfailed⟩
  . rintro ⟨ht, hfailed⟩
    exact ⟨_, (h.mem_failed _).2 ⟨t, ht, hfailed, rfl⟩, Ticket.reset_withOutcome (h.outcome t ht) _⟩

theorem indices_again : ((b.again gate).pending.map (·.index)).Nodup := by
  show ((b.failed.map Ticket.reset).map (·.index)).Nodup
  rw [List.map_map]
  exact h.inStep.regular.failed

theorem mem_indices_again {t : Ticket} (ht : t ∈ b₀.pending)
    : t.index ∈ (b.again gate).pending.map (·.index) ↔
        t.outcomeAt b₀.crew (t.retries b₀.crew j + 1) = .failed := by
  rw [List.mem_map]
  constructor
  . rintro ⟨u, hu, heq⟩
    rcases (h.mem_again gate u).1 hu with ⟨hmem, hfailed⟩
    rw [← h.ascending.eq_of_index hmem ht heq]
    exact hfailed
  . intro hfailed
    exact ⟨t, (h.mem_again gate t).2 ⟨ht, hfailed⟩, rfl⟩

theorem again_perm : (b.again gate).pending.Perm
    (b₀.pending.filter fun t => t.retries b₀.crew (j + 1) = j + 1) := by
  have hnodup : (b.again gate).pending.Nodup := List.Nodup.of_map _ (h.indices_again gate)
  rw [List.perm_ext_iff_of_nodup hnodup (h.ascending.nodup.filter _)]
  intro t
  rw [h.mem_again, List.mem_filter, decide_eq_true_iff, Ticket.retries_succ_eq_iff]

theorem length_again : (b.again gate).pending.length =
    b₀.pending.countP fun t => t.retries b₀.crew (j + 1) = j + 1 := by
  rw [List.countP_eq_length_filter]
  exact (h.again_perm gate).length_eq

theorem primed_again : (b.again gate).Primed where
  heard := by
    have := (Board.Alike.clearNotices b.board).heard
    rw [h.inStep.heard] at this
    exact (Stream.heard_tell _ _).trans this
  sound := h.inStep.sound
  running := h.running
  pass := rfl
  failed := rfl
  indices := h.indices_again gate

theorem next_again {t : Ticket} (ht : t ∈ b₀.pending)
    (hfailed : t.outcomeAt b₀.crew (t.retries b₀.crew j + 1) = .failed)
    : t.outcomeAt b₀.crew ((b.again gate).shared.nextAttempt t.index) =
        t.outcomeAt b₀.crew (t.retries b₀.crew (j + 1) + 1) := by
  have hcalled : (b.again gate).shared.nextAttempt t.index =
      b₀.crew.callsFor t.profile * (t.retries b₀.crew j + 1) + 1 := by
    exact congrArg (· + 1) (h.called t ht)
  rw [hcalled, t.outcomeAt_mul_callsFor, t.retries_succ_of_failed b₀.crew hfailed]

theorem conserved_again
    : (b.again gate).standing.carried.successes + (b.again gate).pending.length =
        b₀.pending.length := by
  have hcarried : (b.again gate).standing.carried.successes =
      b.standing.carried.successes + b.standing.pass.successes := by
    exact Counts.successes_addSuccesses _ _
  have hlength : (b.again gate).pending.length = b.standing.pass.failed := by
    show (b.failed.map Ticket.reset).length = _
    rw [List.length_map]
    exact h.inStep.regular.pass_failed.symm
  -- what the pass did not carry over it has counted as failed
  have hbalanced : b.standing.pass.completed = b.standing.pass.successes + b.standing.pass.failed :=
    h.inStep.regular.balanced
  have := h.conserved
  have := h.completed
  omega

theorem results_again {gate : Gate} (hd : (b.again gate).PassDone b')
    : b'.results = b₀.pending.map (·.after b₀.crew (j + 1)) := by
  have hafter : Ascending (b.again gate).results := by
    show Ascending b.results
    rw [h.results]
    exact h.ascending.map (·.after b₀.crew j) fun _ => rfl
  apply (hd.ascending_results hafter).eq_of_mem_iff
    (h.ascending.map (·.after b₀.crew (j + 1)) fun _ => rfl)
  intro u
  rw [hd.mem_results hafter (h.indices_again gate)]
  have hnext : ∀ t ∈ b₀.pending, t.outcomeAt b₀.crew (t.retries b₀.crew j + 1) = .failed →
      t.next (b.again gate).crew (b.again gate).shared = t.after b₀.crew (j + 1) := by
    intro t ht hfailed
    have hcrew : (b.again gate).crew = b₀.crew := h.crew
    unfold Ticket.next
    rw [hcrew, h.next_again gate ht hfailed]
    rfl
  -- a ticket that ran again has replaced its result, and any other has kept it
  constructor
  . rintro (⟨t, ht, rfl⟩ | ⟨hold, hnot⟩)
    . rcases (h.mem_again gate t).1 ht with ⟨hmem, hfailed⟩
      exact List.mem_map.2 ⟨t, hmem, (hnext t hmem hfailed).symm⟩
    . have hold : u ∈ b.results := hold
      rw [h.results] at hold
      rcases List.mem_map.1 hold with ⟨t, ht, rfl⟩
      have hne := mt (h.mem_indices_again gate ht).2 hnot
      exact List.mem_map.2 ⟨t, ht, t.after_succ_of_ne b₀.crew hne⟩
  . intro hu
    rcases List.mem_map.1 hu with ⟨t, ht, rfl⟩
    -- the code of a ticket is called again exactly if its last attempt failed
    by_cases hfailed : t.outcomeAt b₀.crew (t.retries b₀.crew j + 1) = .failed
    . exact .inl ⟨t, (h.mem_again gate t).2 ⟨ht, hfailed⟩, hnext t ht hfailed⟩
    . have hold : t.after b₀.crew j ∈ b.results := by
        rw [h.results]
        exact List.mem_map_of_mem ht
      rw [t.after_succ_of_ne b₀.crew hfailed]
      exact .inr ⟨hold, mt (h.mem_indices_again gate ht).1 hfailed⟩

theorem again (hj : j < b₀.options.retryBudget) {gate : Gate} (hd : (b.again gate).PassDone b')
    : Settled b₀ (j + 1) b' := by
  have hother : ∀ i, i ∉ b₀.pending.map (·.index) →
      i ∉ (b.again gate).pending.map (·.index) := by
    intro i hi hmem
    rcases List.mem_map.1 hmem with ⟨t, ht, rfl⟩
    exact hi (List.mem_map_of_mem ((h.mem_again gate t).1 ht).1)
  constructor
  . exact h.toAtRest.passDone hd rfl rfl
  . exact h.results_again hd
  . exact hd.drained
  . intro t ht
    rw [hd.begun, b.begun_again, h.begun t ht]
    simp only [h.mem_indices_again gate ht, Ticket.retries]
    split <;> rfl
  . intro i hi
    rw [hd.begun, b.begun_again, h.begun_other i hi, if_neg (hother i hi)]
  . intro t ht
    by_cases hfailed : t.outcomeAt b₀.crew (t.retries b₀.crew j + 1) = .failed
    . rw [hd.called t ((h.mem_again gate t).2 ⟨ht, hfailed⟩),
        t.retries_succ_of_failed b₀.crew hfailed, Nat.mul_succ, ← h.called t ht]
      exact congrArg (fun crew : Crew => b.shared.called t.index + crew.callsFor t.profile) h.crew
    . rw [hd.called_other _ (mt (h.mem_indices_again gate ht).1 hfailed),
        t.retries_succ_of_ne b₀.crew hfailed]
      exact h.called t ht
  . intro i hi
    rw [hd.called_other i (hother i hi)]
    exact h.called_other i hi
  . intro u
    have hcrew : (b.again gate).crew = b₀.crew := h.crew
    rw [hd.mem_failed, hcrew]
    constructor
    . rintro ⟨t, ht, hfailed, rfl⟩
      rcases (h.mem_again gate t).1 ht with ⟨hmem, hbefore⟩
      rw [h.next_again gate hmem hbefore] at hfailed
      exact ⟨t, hmem, hfailed, rfl⟩
    . rintro ⟨t, ht, hfailed, rfl⟩
      have hbefore : t.outcomeAt b₀.crew (t.retries b₀.crew j + 1) = .failed := by
        by_contra hne
        rw [t.retries_succ_of_ne b₀.crew hne] at hfailed
        exact hne hfailed
      refine ⟨t, (h.mem_again gate t).2 ⟨ht, hbefore⟩, ?_, rfl⟩
      rw [h.next_again gate ht hbefore, hfailed]
  . rw [hd.started, hd.passSize]
  . rw [hd.completed, hd.passSize]
  . rw [hd.passSize, h.length_again]
  . rw [hd.passSize, hd.carried, h.conserved_again]
  . have hwrap : (b.again gate).standing.retryCycle = wrap32 (b.standing.retryCycle + 1) := rfl
    rw [hd.retryCycle, hwrap, h.retryCycle]
    exact wrap32_of_le (Nat.le_trans hj b₀.options.retryBudget_le)
  . rw [hd.retryBudget, ← h.retryBudget]
    rfl

end Again

theorem failed_perm (h : Settled b₀ j b)
    : b.failed.Perm ((b₀.pending.filter fun t => (j : ℕ∞) < t.failures b₀.crew).map
        (·.withOutcome .failed)) := by
  have hfailed : b.failed.Nodup := List.Nodup.of_map _ h.inStep.regular.failed
  have hpending : Ascending (b₀.pending.filter fun t => (j : ℕ∞) < t.failures b₀.crew) :=
    h.ascending.sublist List.filter_sublist
  have hmap := hpending.map (·.withOutcome .failed) fun _ => rfl
  rw [List.perm_ext_iff_of_nodup hfailed hmap.nodup]
  intro u
  rw [h.mem_failed, List.mem_map]
  simp only [Ticket.outcomeAt_retries_eq_failed_iff, List.mem_filter, decide_eq_true_iff, and_assoc,
    eq_comm (a := u)]

theorem results_eq (h : Settled b₀ j b) : b.results = b₀.pending.map fun t =>
    t.withOutcome (t.outcomeAt b₀.crew ((min (j : ℕ∞) (t.failures b₀.crew)).toNat + 1)) := by
  rw [h.results]
  apply List.map_congr_left
  intro t _
  rw [← t.retries_eq_min, ENat.toNat_natCast]
  rfl

end Settled

section Calls

variable {b₀ b b' : Batch} {j : Nat} {dismissed : Bool} (d : Discipline)

theorem Settled.paused (h : Settled b₀ j b) (hb : j ≤ b₀.options.retryBudget)
    (ht : dismissed = true → j < b₀.options.retryBudget) (ha : b.Alike b')
    (hgate : b'.gate =
      { budget := b₀.options.retryBudget
        state := .paused b₀.options.retryBudget j b.failed.length dismissed })
    : Paused b₀ j dismissed b' := by
  refine ⟨h.alike ha, hb, ht, ?_⟩
  unfold failed
  rw [ha.board.tally]
  exact hgate

theorem run_eq_of_nil (hidle : b.gate.state = .idle) (hpending : b.pending.length = 0)
    (h : [.log "No tasks to execute", .finishBatch].foldl announce
      { b with gate := { b.gate with state := .finished 0 false } } = b')
    : b.run d = (.ok b'.state, b') := by
  unfold Batch.run
  rw [hpending, Gate.apply_start_zero hidle]
  dsimp only
  rw [perform_announcements d _ (by simp), h]
  rfl

theorem run_eq (hidle : b.gate.state = .idle) (hpending : 0 < b.pending.length)
    (h : { b with gate := { b.gate with state := .running 0 b.pending.length } }.perform d
      [.log s!"Starting {b.pending.length} tasks", .runPass false] = (.ok (), b'))
    : b.run d = (.ok b'.state, b') := by
  unfold Batch.run
  rw [Gate.apply_start hidle hpending]
  exact congrArg (reply state) h

theorem retry_eq {used failed : Nat} (hstate : b.gate.state = .awaitingRetry used failed)
    (h : (b.again { b.gate with state := .running (used + 1) failed }).perform d
      [.log s!"Retrying {failed} failed tasks", .runPass true] = (.ok (), b'))
    : b.retry d = (.ok b'.state, b') := by
  unfold Batch.retry
  rw [Gate.apply_retryRequested hstate]
  exact congrArg (reply state) h

theorem finish_eq {used failed : Nat} (hstate : b.gate.state = .awaitingRetry used failed)
    (h : [.log s!"Continuing with {failed} failed tasks", .finishBatch].foldl announce
      { b with gate := { b.gate with state := .finished failed false } } = b')
    : b.finish d = (.ok b'.summary, b') := by
  unfold Batch.finish
  rw [Gate.apply_dismissed hstate]
  dsimp only
  rw [perform_announcements d _ (by simp), h]
  rfl

theorem Fresh.run (h : Fresh b₀ b) : ∃ b', b.run d = (.ok b'.state, b') ∧ Paused b₀ 0 false b' := by
  have hidle : b.gate.state = .idle := by rw [h.gate]
  by_cases hpending : b.pending.length = 0
  . refine ⟨_, run_eq_of_nil d hidle hpending rfl, ?_⟩
    rw [h.pending, List.length_eq_zero_iff] at hpending
    apply (h.settled_of_nil hpending).paused (Nat.zero_le _) (by simp)
      ((Alike.withGate b _).trans (.announceAll _ _))
    rw [gate_announceAll, h.gate]
    have hfailed : b.failed = [] := (h.primed b.gate).failed
    rw [hfailed]
    rfl
  . have hprimed := h.primed { b.gate with state := .running 0 b.pending.length }
    rcases perform_pass d hprimed rfl s!"Starting {b.pending.length} tasks" false
      with ⟨b₁, b₂, hperform, hdone, halike, hgate⟩
    refine ⟨b₂, run_eq d hidle (Nat.pos_of_ne_zero hpending) hperform, ?_⟩
    apply (h.settled hdone).paused (Nat.zero_le _) (by simp) halike
    rw [hgate, h.gate]

namespace Paused

theorem state_eq (h : Paused b₀ j dismissed b) : b.gate.state =
    .paused b₀.options.retryBudget j b.failed.length dismissed := by
  rw [h.gate]

theorem retry (h : Paused b₀ j dismissed b) (hj : j < b₀.options.retryBudget)
    (hstate : b.gate.state = .awaitingRetry j b.failed.length)
    : ∃ b', b.retry d = (.ok b'.state, b') ∧ Paused b₀ (j + 1) false b' := by
  have hprimed := h.primed_again { b.gate with state := .running (j + 1) b.failed.length }
  rcases perform_pass d hprimed rfl s!"Retrying {b.failed.length} failed tasks" true
    with ⟨b₁, b₂, hperform, hdone, halike, hgate⟩
  refine ⟨b₂, retry_eq d hstate hperform, ?_⟩
  apply (h.toSettled.again hj hdone).paused hj (by simp) halike
  rw [hgate]
  show Gate.mk b.gate.budget (.paused b.gate.budget _ _ _) = _
  rw [h.gate]

theorem finish (h : Paused b₀ j dismissed b) (hj : j < b₀.options.retryBudget)
    (hstate : b.gate.state = .awaitingRetry j b.failed.length) (hfailed : 0 < b.failed.length)
    : ∃ b', b.finish d = (.ok b'.summary, b') ∧ Paused b₀ j true b' := by
  refine ⟨_, finish_eq d hstate rfl, ?_⟩
  apply h.toSettled.paused h.le_budget (fun _ => hj)
    ((Alike.withGate b _).trans (.announceAll _ _))
  have hdismissed : Gate.State.paused b₀.options.retryBudget j b.failed.length true =
      .finished b.failed.length false := by
    unfold Gate.State.paused
    rw [if_neg (Nat.ne_of_gt hfailed), if_pos rfl]
  rw [gate_announceAll, h.gate, hdismissed]

theorem alike (h : Paused b₀ j dismissed b) (ha : b.Alike b') (hgate : b'.gate = b.gate)
    : Paused b₀ j dismissed b' :=
  h.toSettled.paused h.le_budget h.in_time ha (hgate.trans h.gate)

end Paused

end Calls

end Batch

end SetupBatch
