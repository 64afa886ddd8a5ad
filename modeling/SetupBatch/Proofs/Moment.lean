import SetupBatch.Proofs.Course

/-!
This module contains the moments of a batch: what is to be seen of the feed, of the tally and of the
workers between any two steps, whatever is asked of the batch and in whatever order workers step.
-/

namespace SetupBatch

namespace Pool

/--
The feed, the tally and the workers of a pool tell the same about the tickets that are out, and the
next start or report of every worker will be accepted, as every earlier one was.
-/
structure InTune (p : Pool) : Prop where
  distinct : ((p.shared.board.feed.lines.filter (·.running)).map (·.task)).Nodup
  mem_lines : ∀ task, task ∈ (p.shared.board.feed.lines.filter (·.running)).map (·.task) ↔
    ∃ i, task = some i ∧ i ∈ p.shared.board.tally.started ∧ i ∉ p.shared.board.tally.settled
  mem_workers : ∀ i, (∃ w ∈ p.workers, w.isRunning = true ∧ w.ticket.index = i) ↔
    i ∈ p.shared.board.tally.started ∧ i ∉ p.shared.board.tally.settled
  live : p.shared.board.feed.live + p.shared.board.tally.standing.pass.completed =
    p.shared.board.tally.standing.pass.started
  start : ∀ w ∈ p.workers, w.stage = .ready →
    ∃ line board, p.shared.board.start w.ticket = (.ok line, board)
  finish : ∀ w ∈ p.workers, ∀ line rest ending, w.stage = .running line rest ending →
    ∀ o detail, ∃ board,
      p.shared.board.finish (w.ticket.withOutcome o) line o detail = (.ok (), board)
  accepted : ∀ w ∈ p.workers, ∀ result, w.stage = .reported result ∨ w.stage = .gone result →
    ∃ t, result = .ok t

theorem Proceeds.mem_workers {s₀ : Shared} {p : Pool} (h : p.Proceeds s₀)
    (hs : s₀.board.InStep) (hrun : s₀.board.feed.running = []) (i : Nat)
    : (∃ w ∈ p.workers, w.isRunning = true ∧ w.ticket.index = i) ↔
        i ∈ p.shared.board.tally.started ∧ i ∉ p.shared.board.tally.settled := by
  constructor
  . rintro ⟨w, hw, hrunning, rfl⟩
    have hstands := h.stands w hw
    unfold Worker.isRunning at hrunning
    unfold Worker.Stands at hstands
    split at hrunning
    . next hstage =>
      rw [hstage] at hstands
      exact ⟨hstands.1.started, hstands.1.settled⟩
    . exact absurd hrunning Bool.false_ne_true
  . rintro ⟨hstarted, hsettled⟩
    by_cases hi : i ∈ p.tickets.map (·.index)
    . rcases List.mem_map.1 hi with ⟨t, ht, rfl⟩
      rcases List.mem_map.1 ht with ⟨w, hw, rfl⟩
      have hstands := h.stands w hw
      refine ⟨w, hw, ?_, rfl⟩
      unfold Worker.isRunning
      unfold Worker.Stands at hstands
      split at hstands
      . exact absurd hstarted hstands.started
      . exact absurd hstarted hstands.started
      . next hstage => rw [hstage]
      . exact absurd hstands.1.settled hsettled
      . exact absurd hstands.1.settled hsettled
    . -- nobody works on this ticket, and before the phase no line ran
      have hsame := h.others i hi
      have hout := hs.exists_line.2 ⟨hsame.started.1 hstarted, mt hsame.settled.2 hsettled⟩
      rw [hrun] at hout
      simp at hout

theorem Proceeds.inTune {s₀ : Shared} {p : Pool} (h : p.Proceeds s₀)
    (hs : s₀.board.InStep) (hrun : s₀.board.feed.running = []) : p.InTune := by
  constructor
  . rw [h.inStep.sound.filter_running]
    exact h.inStep.nodup
  . intro task
    rw [h.inStep.sound.filter_running, h.inStep.mem_iff]
    constructor
    . rintro ⟨i, hstarted, hsettled, htask⟩
      exact ⟨i, htask, hstarted, hsettled⟩
    . rintro ⟨i, htask, hstarted, hsettled⟩
      exact ⟨i, hstarted, hsettled, htask⟩
  . exact h.mem_workers hs hrun
  . exact h.inStep.live_add
  . intro w hw hstage
    have hstands := h.stands w hw
    unfold Worker.Stands at hstands
    rw [hstage] at hstands
    rcases h.inStep.start hstands.admitted hstands.started with ⟨line, board, hstart, -⟩
    exact ⟨line, board, hstart⟩
  . intro w hw line rest ending hstage o detail
    have hstands := h.stands w hw
    unfold Worker.Stands at hstands
    rw [hstage] at hstands
    rcases hstands.1.line with ⟨l, hl, rfl, htask⟩
    rcases h.inStep.finish (t := w.ticket.withOutcome o) hstands.1.started hstands.1.settled hl
      htask o detail with ⟨board, hfinish, -⟩
    exact ⟨board, hfinish⟩
  . intro w hw result hstage
    have hstands := h.stands w hw
    unfold Worker.Stands at hstands
    cases hstage with
    | inl hreported =>
      rw [hreported] at hstands
      exact ⟨_, hstands.2⟩
    | inr hgone =>
      rw [hgone] at hstands
      exact ⟨_, hstands.2⟩

end Pool

namespace Batch

def still (b : Batch) : Pool := { crew := b.crew, shared := b.shared, workers := [] }

/-- The pools that there are at some moment of a call. -/
inductive Sees (b : Batch) (r : Request) : Pool → Prop where
  | granted {p : Pass} : b.pass? r = some p → Sees b r p.batch.still
  | opened {p : Pass} : b.pass? r = some p → Sees b r p.batch.opened.still
  | phase {phase : Phase} {b' : Batch} {q : Pool} : b.Begins r phase b' →
    (Pool.ofPhase b'.crew b'.shared phase).Reach q → Sees b r q
  | closed {p : Pass} {failed : Nat} {b' : Batch} : b.pass? r = some p →
    p.batch.runPass p.discipline p.retry = (.ok failed, b') → Sees b r b'.still
  | answered : Sees b r (b.serve r).2.still

theorem inTune_still {b : Batch} (hs : b.board.InStep) (hrun : b.board.feed.running = [])
    : b.still.InTune := by
  have hproceeds : b.still.Proceeds b.shared :=
    ⟨hs, List.nodup_nil, by simp [still], fun i _ => .refl i _, .refl _⟩
  exact hproceeds.inTune hs hrun

theorem Settled.inTune_again {b₀ b : Batch} {j : Nat} (h : Settled b₀ j b) (gate : Gate)
    : (b.again gate).still.InTune := by
  -- the counters are those of the next pass and the lists those of the last, so the board is not
  -- in step; but no ticket is out
  have hlines : b.board.feed.lines.filter (·.running) = [] := by
    rw [h.inStep.sound.filter_running, h.running]
  have hlive : b.board.feed.live = 0 := by
    rw [← Feed.length_running h.inStep.sound.live_le, h.running]
    rfl
  have hout : ∀ i, ¬(i ∈ b.board.tally.started ∧ i ∉ b.board.tally.settled) := by
    intro i
    rw [← h.inStep.exists_line, h.running]
    simp
  constructor
  . show ((b.board.feed.lines.filter (·.running)).map (·.task)).Nodup
    rw [hlines]
    exact List.nodup_nil
  . intro task
    show task ∈ (b.board.feed.lines.filter (·.running)).map (·.task) ↔
      ∃ i, task = some i ∧ i ∈ b.board.tally.started ∧ i ∉ b.board.tally.settled
    rw [hlines]
    simp only [hout]
    simp
  . intro i
    show _ ↔ i ∈ b.board.tally.started ∧ i ∉ b.board.tally.settled
    simp only [hout]
    simp [still]
  . show b.board.feed.live + 0 = 0
    rw [hlive]
  . simp [still]
  . simp [still]
  . simp [still]

variable {b₀ : Batch}

theorem inTune_of_stands {s : Session} (h : s.Stands b₀) : s.batch.still.InTune := by
  cases h with
  | fresh _ _ _ hfresh => exact inTune_still hfresh.inStep hfresh.running
  | paused _ hpaused => exact inTune_still hpaused.inStep hpaused.running

theorem inTune_of_pass? {s : Session} (h : s.Stands b₀) {r : Request} {p : Pass}
    (hpass : s.batch.pass? r = some p) : p.batch.still.InTune := by
  rcases pass?_eq_some hpass
    with ⟨d, gate, message, rfl, rfl, -⟩ | ⟨d, gate, message, rfl, rfl, happly⟩
  . exact inTune_of_stands h
  . cases h with
    | fresh _ _ _ hfresh =>
      rw [hfresh.gate] at happly
      cases happly
    | paused _ hpaused => exact hpaused.inTune_again gate

theorem inTune_of_sees {s : Session} (h : s.Stands b₀) {r : Request} {q : Pool}
    (hq : s.batch.Sees r q) : q.InTune := by
  cases hq with
  | granted hpass => exact inTune_of_pass? h hpass
  | opened hpass =>
    rcases h.conducts hpass with ⟨b₁, hconducts⟩
    have hready := hconducts.opened.2.2
    exact inTune_still hready.inStep hready.running
  | phase hbegins hreach =>
    have hready := (h.ready_of_begins hbegins).1
    exact (hready.reach hreach).1.inTune hready.inStep hready.running
  | closed hpass hrun =>
    rcases h.conducts hpass with ⟨b₁, hconducts⟩
    cases hrun.symm.trans hconducts.runPass
    exact inTune_still hconducts.done.inStep hconducts.done.running
  | answered => exact inTune_of_stands (h.call r)

theorem drained_of_stands {s : Session} (h : s.Stands b₀)
    : s.batch.board.tally.isDrained = true ∧ s.batch.messages.filter (·.running) = [] := by
  unfold messages
  cases h with
  | fresh _ _ _ hfresh =>
    rw [hfresh.inStep.sound.filter_running, hfresh.running, hfresh.tally]
    exact ⟨rfl, rfl⟩
  | paused _ hpaused =>
    rw [hpaused.inStep.sound.filter_running, hpaused.running]
    exact ⟨hpaused.drained, rfl⟩

/--
The feed and the tally never drift apart: at every moment of every call they tell the same about the
tickets that are out, no start and no report is ever refused, and every pass ends with all of its
tickets reported. What the calls make of the batch is made in these moments.
-/
theorem inTune_ofCalls {id : BatchId} {options : Options} {tasks : List Task}
    {channel : Option String} {clock : Nat → Instant}
    (hnew : Batch.new id options tasks channel clock = .ok b₀) (requests : List Request)
    : let s := Session.ofCalls b₀ requests
      s.batch.still.InTune ∧ (∀ r q, s.batch.Sees r q → q.InTune) ∧
      (∀ r, s.batch.Serves r) ∧ s.batch.board.tally.isDrained = true ∧
      s.batch.messages.filter (·.running) = [] ∧
      ∀ call ∈ s.served, ∀ fault, call.2 = .error fault → fault.isInvariantViolation = false := by
  intro s
  have hstands := Session.stands_ofCalls (fresh_new hnew) requests
  have hdrained := drained_of_stands hstands.1
  refine ⟨inTune_of_stands hstands.1, ?_, hstands.1.serves, hdrained.1, hdrained.2, ?_⟩
  . intro r q hq
    exact inTune_of_sees hstands.1 hq
  . intro call hcall fault hfault
    unfold Fault.isInvariantViolation
    rw [hstands.2 call hcall fault hfault]
    rfl

theorem inTune_sample
    : ∃ q, sample.Sees (.run .queued) q ∧ q.InTune ∧ q.shared.board.feed.live = 2 := by
  let phase : Phase := ⟨0, "independent", sample.pending⟩
  let b' := opened { sample with gate := { sample.gate with state := .running 0 2 } }
  have hpass := (fresh_new new_sample).pass?_run .queued Nat.two_pos
  have hbegins : sample.Begins (.run .queued) phase b' := ⟨_, [], [], hpass, rfl, rfl⟩
  -- both workers take a slot and start
  have hreach : ∃ q, (Pool.ofPhase b'.crew b'.shared phase).Reach q ∧
      q.shared.board.feed.live = 2 := by
    exact ⟨_, .step 1 (.step 1 (.step 0 (.step 0 .refl rfl) rfl) rfl) rfl, rfl⟩
  rcases hreach with ⟨q, hreach, hlive⟩
  have hsees : sample.Sees (.run .queued) q := .phase hbegins hreach
  exact ⟨q, hsees, (inTune_ofCalls new_sample []).2.1 _ q hsees, hlive⟩

end Batch

end SetupBatch
