import SetupBatch.Proofs.Figures
import SetupBatch.Proofs.Law

/-!
This module contains the verification of the loop that decides about retries: every call that it
makes is accepted, and it ends when the gate is finished.
-/

namespace SetupBatch

namespace Batch

variable {b₀ b : Batch} {j : Nat} {dismissed : Bool}

noncomputable def longestFailure (b : Batch) : ℕ∞ := ⨆ t ∈ b.pending, t.failures b.crew

theorem Settled.lt_longestFailure (h : Settled b₀ j b) (hfailed : 0 < b.failed.length)
    : (j : ℕ∞) < b₀.longestFailure := by
  rcases h.failed_pos_iff.1 hfailed with ⟨t, ht, hlt⟩
  exact hlt.trans_le (le_iSup₂ (f := fun t (_ : t ∈ b₀.pending) => t.failures b₀.crew) t ht)

theorem Settled.longestFailure_le (h : Settled b₀ j b) (hnone : ¬0 < b.failed.length)
    : b₀.longestFailure ≤ j := by
  apply iSup₂_le
  intro t ht
  by_contra hlt
  exact hnone (h.failed_pos_iff.2 ⟨t, ht, not_le.1 hlt⟩)

namespace Paused

theorem showsRetryButton_iff (h : Paused b₀ j dismissed b)
    : b.gate.showsRetryButton = true ↔ Offers b₀ j dismissed b := by
  by_cases ho : Offers b₀ j dismissed b
  . simp [Gate.showsRetryButton, h.state_of_offers ho, ho]
  . rcases h.state_of_not_offers ho with ⟨exhausted, hstate⟩
    simp [Gate.showsRetryButton, hstate, ho]

theorem state_eq_finished (h : Paused b₀ j dismissed b) (ho : ¬Offers b₀ j dismissed b)
    : b.state = .finished b.failed.length b.summary.exhausted := by
  rcases h.state_of_not_offers ho with ⟨exhausted, hstate⟩
  have hexhausted : b.summary.exhausted = exhausted := by
    show b.gate.showsExhaustedBanner = _
    unfold Gate.showsExhaustedBanner
    rw [hstate]
  rw [hexhausted]
  exact hstate

section Decide

variable (d : Discipline)

theorem decide_of_not_offers (h : Paused b₀ j dismissed b) (ho : ¬Offers b₀ j dismissed b)
    (retry : Bool) : b.decide d retry = ([], b) := by
  unfold Batch.decide
  rw [if_neg (mt h.showsRetryButton_iff.1 ho)]

theorem decide_finish (h : Paused b₀ j false b) (ho : Offers b₀ j false b)
    : ∃ b', b.decide d false = ([.ok (.summary b'.summary)], b') ∧ Paused b₀ j true b' := by
  rcases h.finish d ho.2.1 (h.state_of_offers ho) ho.1 with ⟨b', hfinish, hpaused⟩
  refine ⟨b', ?_, hpaused⟩
  unfold Batch.decide
  rw [if_pos (h.showsRetryButton_iff.2 ho), if_neg Bool.false_ne_true, hfinish]
  rfl

theorem decide_retry (h : Paused b₀ j false b) (ho : Offers b₀ j false b)
    : ∃ b', Paused b₀ (j + 1) false b' ∧ b.decide d true =
        (.ok (.state b'.state) :: (b'.decide d true).1, (b'.decide d true).2) := by
  rcases h.retry d ho.2.1 (h.state_of_offers ho) with ⟨b', hretry, hpaused⟩
  refine ⟨b', hpaused, ?_⟩
  rw [Batch.decide, if_pos (h.showsRetryButton_iff.2 ho), if_pos rfl]
  split
  . next hretry' =>
    rw [hretry] at hretry'
    cases hretry'
    rfl
  . next hretry' =>
    rw [hretry] at hretry'
    cases hretry'

/--
Retries are asked for until none is on offer. Each was offered for a ticket that had failed at every
attempt before, so that the longest failure bounds them.
-/
theorem decide_retries (h : Paused b₀ j false b) (hbound : (j : ℕ∞) ≤ b₀.longestFailure)
    : ∃ (passes : List Gate.State) (b' : Batch),
        b.decide d true = ((passes.map Answer.state).map .ok, b') ∧
        Paused b₀ (j + passes.length) false b' ∧ ¬Offers b₀ (j + passes.length) false b' ∧
        ((j + passes.length : Nat) : ℕ∞) ≤ b₀.longestFailure ∧
        (b.state :: passes).getLast? = some b'.state := by
  -- each retry leaves fewer that the gate may grant
  induction hleft : b₀.options.retryBudget - j using Nat.strong_induction_on generalizing j b with
  | _ left ih =>
    by_cases ho : Offers b₀ j false b
    . rcases h.decide_retry d ho with ⟨b₁, hnext, hdecide⟩
      have hlt := ho.2.1
      have hfails : ((j + 1 : Nat) : ℕ∞) ≤ b₀.longestFailure := by
        exact_mod_cast Order.add_one_le_of_lt (h.lt_longestFailure ho.1)
      rcases ih _ (by omega) hnext hfails rfl with ⟨passes, b', hrest, hpaused, hnot, hle, hlast⟩
      refine ⟨b₁.state :: passes, b', ?_, ?_⟩
      . rw [hdecide, hrest]
        rfl
      . have hlength : j + (b₁.state :: passes).length = j + 1 + passes.length := by
          rw [List.length_cons]
          omega
        rw [hlength, List.getLast?_cons_cons]
        exact ⟨hpaused, hnot, hle, hlast⟩
    . exact ⟨[], b, h.decide_of_not_offers d ho true, h, ho, hbound, rfl⟩

end Decide

theorem lt_failures_iff (h : Paused b₀ j dismissed b) (hnot : ¬Offers b₀ j false b) {t : Ticket}
    (ht : t ∈ b₀.pending)
    : (j : ℕ∞) < t.failures b₀.crew ↔ (b₀.options.retryBudget : ℕ∞) < t.failures b₀.crew := by
  constructor
  . intro hlt
    have hfailed := h.failed_pos_iff.2 ⟨t, ht, hlt⟩
    have hspent : j = b₀.options.retryBudget := by
      refine le_antisymm h.le_budget (not_lt.1 fun hj => ?_)
      exact hnot ⟨hfailed, hj, rfl⟩
    rw [← hspent]
    exact hlt
  . exact (Nat.cast_le.2 h.le_budget).trans_lt

theorem eq_min (h : Paused b₀ j dismissed b) (hnot : ¬Offers b₀ j false b)
    (hbound : (j : ℕ∞) ≤ b₀.longestFailure)
    : (j : ℕ∞) = min (b₀.options.retryBudget : ℕ∞) b₀.longestFailure := by
  apply le_antisymm (le_min (Nat.cast_le.2 h.le_budget) hbound)
  by_cases hfailed : 0 < b.failed.length
  . have hspent : b₀.options.retryBudget ≤ j := not_lt.1 fun hj => hnot ⟨hfailed, hj, rfl⟩
    exact (min_le_left _ _).trans (Nat.cast_le.2 hspent)
  . exact (min_le_right _ _).trans (h.longestFailure_le hfailed)

end Paused

/-- A batch that began as `b₀`, once `j` retries have been granted and no decision is left. -/
structure Decided (b₀ : Batch) (retry : Bool) (j : Nat) (b : Batch) : Prop
    extends Settled b₀ j b where
  state : b.state = .finished b.failed.length b.summary.exhausted
  retries : (j : ℕ∞) =
    if retry then min (b₀.options.retryBudget : ℕ∞) b₀.longestFailure else 0
  lt_failures_iff : ∀ t ∈ b₀.pending, (j : ℕ∞) < t.failures b₀.crew ↔
    ((if retry then b₀.options.retryBudget else 0 : Nat) : ℕ∞) < t.failures b₀.crew
  exhausted : b.summary.exhausted = true ↔ 0 < b.failed.length ∧ j = b₀.options.retryBudget

theorem Paused.decided (h : Paused b₀ 0 dismissed b) (hnot : ¬Offers b₀ 0 dismissed b)
    : Decided b₀ false 0 b where
  toSettled := h.toSettled
  state := h.state_eq_finished hnot
  retries := rfl
  lt_failures_iff _ _ := Iff.rfl
  exhausted := h.exhausted_iff

theorem Paused.decided_retry (h : Paused b₀ j false b) (hnot : ¬Offers b₀ j false b)
    (hbound : (j : ℕ∞) ≤ b₀.longestFailure) : Decided b₀ true j b where
  toSettled := h.toSettled
  state := h.state_eq_finished hnot
  retries := h.eq_min hnot hbound
  lt_failures_iff _ ht := h.lt_failures_iff hnot ht
  exhausted := h.exhausted_iff

theorem Decided.retries_le {retry : Bool} (h : Decided b₀ retry j b)
    : j ≤ if retry then b₀.options.retryBudget else 0 := by
  have hretries := h.retries
  cases retry with
  | true => exact Nat.cast_le.1 (hretries.trans_le (min_le_left _ _))
  | false => exact (Nat.cast_eq_zero.1 hretries).le

theorem Decided.exhausted_iff {retry : Bool} (h : Decided b₀ retry j b)
    : b.summary.exhausted = true ↔
        0 < b.failed.length ∧ (retry = true ∨ b₀.options.retryBudget = 0) := by
  rw [h.exhausted, and_congr_right_iff]
  intro hfailed
  have hretries := h.retries
  cases retry with
  | true =>
    -- some ticket fails longer than the retries lasted, and only the budget can have ended them
    rw [if_pos rfl] at hretries
    have hlt := h.lt_longestFailure hfailed
    rw [hretries, min_lt_iff, or_iff_left (lt_irrefl _)] at hlt
    rw [min_eq_left hlt.le, Nat.cast_inj] at hretries
    exact iff_of_true hretries (.inl rfl)
  | false =>
    rw [if_neg Bool.false_ne_true, Nat.cast_eq_zero] at hretries
    rw [hretries]
    simp [eq_comm]

theorem Fresh.runAll (h : Fresh b₀ b) (d : Discipline) (retry : Bool)
    : ∃ (passes : List Gate.State) (closing : List Summary) (j : Nat) (b' : Batch),
        b.runAll d retry =
          ((passes.map Answer.state ++ closing.map Answer.summary).map .ok, b') ∧
        passes.length = j + 1 ∧
        (closing = [b'.summary] ∧ retry = false ∨ closing = [] ∧
          passes.getLast? = some b'.state) ∧
        Decided b₀ retry j b' := by
  rcases h.run d with ⟨b₁, hrun, hpaused⟩
  unfold Batch.runAll
  rw [hrun]
  cases retry with
  | true =>
    rcases hpaused.decide_retries d (by simp) with ⟨passes, b', hdecide, hend, hnot, hle, hlast⟩
    rw [Nat.zero_add] at hend hnot hle
    refine ⟨b₁.state :: passes, [], passes.length, b', ?_, rfl, .inr ⟨rfl, hlast⟩,
      hend.decided_retry hnot hle⟩
    dsimp only
    rw [hdecide, List.map_nil, List.append_nil]
    rfl
  | false =>
    by_cases ho : Offers b₀ 0 false b₁
    . rcases hpaused.decide_finish d ho with ⟨b', hdecide, hend⟩
      refine ⟨[b₁.state], [b'.summary], 0, b', ?_, rfl, .inl ⟨rfl, rfl⟩,
        hend.decided fun hoffers => Bool.noConfusion hoffers.2.2⟩
      dsimp only
      rw [hdecide]
      rfl
    . refine ⟨[b₁.state], [], 0, b₁, ?_, rfl, .inr ⟨rfl, rfl⟩, hpaused.decided ho⟩
      dsimp only
      rw [hpaused.decide_of_not_offers d ho]
      rfl

end Batch

end SetupBatch
