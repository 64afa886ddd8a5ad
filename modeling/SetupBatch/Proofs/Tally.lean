import Mathlib.Data.List.Nodup
import Mathlib.Data.List.Perm.Subperm
import SetupBatch.Tally

/-!
This module contains the verification of the tally: when a start or a report is accepted, and what
holds of the counters and of the sets of indices while tickets start and report in any order.
-/

namespace SetupBatch

namespace Counts

theorem report_started (c : Counts) (o : Outcome) : (c.report o).started = c.started := by
  cases o <;> rfl

theorem report_completed (c : Counts) (o : Outcome)
    : (c.report o).completed = c.completed + 1 := by
  cases o <;> rfl

theorem report_failed (c : Counts) (o : Outcome)
    : (c.report o).failed = c.failed + if o = .failed then 1 else 0 := by
  cases o <;> rfl

theorem report_successes (c : Counts) (o : Outcome)
    : (c.report o).successes = c.successes + if o = .failed then 0 else 1 := by
  cases o <;> simp [report, successes] <;> omega

theorem successes_addSuccesses (c other : Counts)
    : (c.addSuccesses other).successes = c.successes + other.successes := by
  unfold addSuccesses successes
  dsimp
  omega

end Counts

theorem nodup_eraseDups {α : Type} [BEq α] [LawfulBEq α] (xs : List α) : xs.eraseDups.Nodup := by
  generalize hn : xs.length = n
  induction n using Nat.strongRecOn generalizing xs with
  | ind n ih =>
    cases xs with
    | nil => simp
    | cons x xs =>
      rw [List.eraseDups_cons, List.nodup_cons]
      constructor
      . simp [List.mem_eraseDups]
      . apply ih (xs.filter fun b => !b == x).length _ _ rfl
        have := List.length_filter_le (fun b => !b == x) xs
        rw [List.length_cons] at hn
        omega

namespace Tally

variable {t t' : Tally}

theorem start_eq_ok_iff {i : Nat}
    : t.start i = .ok t' ↔ i ∈ t.admitted ∧ i ∉ t.started ∧
        t' = { t with
          started := i :: t.started
          standing := { t.standing with
            pass := { t.standing.pass with started := t.standing.pass.started + 1 } } } := by
  unfold start
  split
  . next h => simp [h]
  . next h =>
    split
    . next h' => simp [h']
    . next h' =>
      simp only [Except.ok.injEq]
      tauto

theorem report_eq_ok_iff {u : Ticket} {o : Outcome}
    : t.report u o = .ok t' ↔ u.index ∈ t.started ∧ u.index ∉ t.settled ∧
        t' = { t with
          settled := u.index :: t.settled
          standing := { t.standing with pass := t.standing.pass.report o }
          failed := if o = .failed then t.failed ++ [u.withOutcome o] else t.failed } := by
  unfold report
  split
  . next h => simp [h]
  . next h =>
    split
    . next h' => simp [h']
    . next h' =>
      simp only [Except.ok.injEq]
      tauto

theorem exists_start {i : Nat} (ha : i ∈ t.admitted) (hs : i ∉ t.started)
    : ∃ t', t.start i = .ok t' := by
  exact ⟨_, start_eq_ok_iff.2 ⟨ha, hs, rfl⟩⟩

theorem exists_report {u : Ticket} (hs : u.index ∈ t.started) (hr : u.index ∉ t.settled)
    (o : Outcome) : ∃ t', t.report u o = .ok t' := by
  exact ⟨_, report_eq_ok_iff.2 ⟨hs, hr, rfl⟩⟩

theorem isDrained_iff_of_nodup (hadmitted : t.admitted.Nodup) (hsettled : t.settled.Nodup)
    (hsub : t.settled ⊆ t.admitted)
    : t.isDrained = true ↔ ∀ i ∈ t.admitted, i ∈ t.settled := by
  unfold isDrained
  rw [beq_iff_eq]
  constructor
  . intro hlen i hi
    -- nobody is counted twice, so equal sizes mean equal sets
    have := (hsettled.subperm hsub).perm_of_length_le (by omega)
    exact this.mem_iff.2 hi
  . intro hall
    exact ((List.perm_ext_iff_of_nodup hsettled hadmitted).2
      fun i => ⟨fun hi => hsub hi, hall i⟩).length_eq

/--
What holds of a tally whose counters were all zero when its pass began. The counters are then the
sizes of the sets, and the failed tickets are among those that reported.
-/
structure Regular (t : Tally) : Prop where
  admitted : t.admitted.Nodup
  started : t.started.Nodup
  settled : t.settled.Nodup
  started_sub : ∀ i ∈ t.started, i ∈ t.admitted
  settled_sub : ∀ i ∈ t.settled, i ∈ t.started
  pass_started : t.standing.pass.started = t.started.length
  pass_completed : t.standing.pass.completed = t.settled.length
  balanced : t.standing.pass.completed = t.standing.pass.successes + t.standing.pass.failed
  pass_failed : t.standing.pass.failed = t.failed.length
  failed : (t.failed.map (·.index)).Nodup
  failed_sub : ∀ u ∈ t.failed, u.index ∈ t.settled ∧ u.outcome = some .failed

namespace Regular

theorem new (retryBudget : Nat) : (Tally.new retryBudget).Regular := by
  constructor <;> simp [Tally.new, Counts.successes]

theorem begin (tickets : List Ticket) (hpass : t.standing.pass = {}) (hfailed : t.failed = [])
    : (t.begin tickets).Regular := by
  unfold Tally.begin
  constructor <;> simp [hpass, hfailed, nodup_eraseDups, Counts.successes]

theorem start (h : t.Regular) {i : Nat} (hs : t.start i = .ok t') : t'.Regular := by
  rcases start_eq_ok_iff.1 hs with ⟨hadmitted, hstarted, rfl⟩
  constructor
  . exact h.admitted
  . exact List.nodup_cons.2 ⟨hstarted, h.started⟩
  . exact h.settled
  . intro k hk
    cases List.mem_cons.1 hk with
    | inl heq => rw [heq]; exact hadmitted
    | inr hmem => exact h.started_sub k hmem
  . intro k hk
    exact List.mem_cons_of_mem _ (h.settled_sub k hk)
  . simp [h.pass_started]
  . exact h.pass_completed
  . exact h.balanced
  . exact h.pass_failed
  . exact h.failed
  . exact h.failed_sub

theorem report (h : t.Regular) {u : Ticket} {o : Outcome} (hs : t.report u o = .ok t')
    : t'.Regular := by
  rcases report_eq_ok_iff.1 hs with ⟨hstarted, hsettled, rfl⟩
  have hnew : u.index ∉ t.failed.map (·.index) := by
    intro hmem
    rcases List.mem_map.1 hmem with ⟨v, hv, heq⟩
    apply hsettled
    rw [← heq]
    exact (h.failed_sub v hv).1
  constructor
  . exact h.admitted
  . exact h.started
  . exact List.nodup_cons.2 ⟨hsettled, h.settled⟩
  . exact h.started_sub
  . intro k hk
    cases List.mem_cons.1 hk with
    | inl heq => rw [heq]; exact hstarted
    | inr hmem => exact h.settled_sub k hmem
  . simp [Counts.report_started, h.pass_started]
  . simp [Counts.report_completed, h.pass_completed]
  . have := h.balanced
    simp only [Counts.report_completed, Counts.report_successes, Counts.report_failed]
    split <;> omega
  . have := h.pass_failed
    simp only [Counts.report_failed]
    split
    . simp [this]
    . exact this
  . dsimp
    split
    . rw [List.map_append, List.nodup_append]
      refine ⟨h.failed, by simp, ?_⟩
      intro k hk k' hk' heq
      rw [heq, List.mem_singleton.1 hk'] at hk
      exact hnew hk
    . exact h.failed
  . dsimp
    intro v hv
    have hold : v ∈ t.failed → v.index ∈ u.index :: t.settled ∧ v.outcome = some .failed := by
      intro hmem
      have := h.failed_sub v hmem
      exact ⟨List.mem_cons_of_mem _ this.1, this.2⟩
    split at hv
    . next ho =>
      cases List.mem_append.1 hv with
      | inl hmem => exact hold hmem
      | inr heq =>
        rw [List.mem_singleton.1 heq, ho]
        exact ⟨List.mem_cons_self, rfl⟩
    . exact hold hv

theorem started_perm (h : t.Regular)
    : t.started.Perm (t.settled ++ t.started.filter (· ∉ t.settled)) := by
  rw [List.perm_ext_iff_of_nodup h.started]
  . intro k
    simp only [List.mem_append, List.mem_filter, decide_eq_true_eq]
    have := h.settled_sub k
    tauto
  . rw [List.nodup_append]
    refine ⟨h.settled, h.started.filter _, ?_⟩
    intro k hk k' hk' heq
    simp only [List.mem_filter, decide_eq_true_eq] at hk'
    exact hk'.2 (heq ▸ hk)

theorem isDrained_iff (h : t.Regular)
    : t.isDrained = true ↔ ∀ i ∈ t.admitted, i ∈ t.settled := by
  apply isDrained_iff_of_nodup h.admitted h.settled
  intro i hi
  exact h.started_sub i (h.settled_sub i hi)

end Regular

end Tally

end SetupBatch
