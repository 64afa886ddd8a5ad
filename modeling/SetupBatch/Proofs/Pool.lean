import SetupBatch.Proofs.Worker

/-!
This module contains the verification of the pool that runs a phase: in whatever order its workers
step, each stands where its stage says, and once all are gone every ticket has ended with the
outcome of its own attempt.
-/

namespace SetupBatch

theorem exists_append_of_getElem? {α : Type} {xs : List α} {i : Nat} {x : α} (h : xs[i]? = some x)
    : ∃ ys zs, xs = ys ++ x :: zs ∧ ∀ y, xs.set i y = ys ++ y :: zs := by
  rcases List.getElem?_eq_some_iff.1 h with ⟨hi, hx⟩
  refine ⟨xs.take i, xs.drop (i + 1), ?_, ?_⟩
  . rw [← hx, List.getElem_cons_drop, List.take_append_drop]
  . intro y
    rw [List.set_eq_take_append_cons_drop, if_pos hi]

/-- Whatever workers may do in some order, they do under some discipline. -/
theorem Discipline.exists_drain_eq {p q : Pool} (hr : p.Reach q) (hd : q.isDone = true)
    : ∃ d : Discipline, d.drain p = q := by
  classical
  refine ⟨⟨fun r => if r = p then q else queued.drain r, ?_, ?_⟩, if_pos rfl⟩
  . intro r
    split
    . next heq =>
      rw [heq]
      exact hr
    . exact queued.reach_drain r
  . intro r
    split
    . exact hd
    . exact queued.isDone_drain r

namespace Pool

variable {s₀ : Shared} {p q : Pool}

def tickets (p : Pool) : List Ticket := p.workers.map (·.ticket)

/--
What holds of a pool while its workers step, if `s₀` was shared when its phase began.
-/
structure Proceeds (s₀ : Shared) (p : Pool) : Prop where
  inStep : p.shared.board.InStep
  indices : (p.tickets.map (·.index)).Nodup
  stands : ∀ w ∈ p.workers, w.Stands p.crew s₀ p.shared
  others : ∀ i, i ∉ p.tickets.map (·.index) → s₀.SameAt i p.shared
  samePass : s₀.board.tally.SamePass p.shared.board.tally

theorem Proceeds.mem_set (h : p.Proceeds s₀) {i : Nat} {w w' v : Worker}
    (hw : p.workers[i]? = some w) (hv : v ∈ p.workers.set i w')
    : v = w' ∨ v ∈ p.workers ∧ v.ticket.index ≠ w.ticket.index := by
  rcases exists_append_of_getElem? hw with ⟨xs, ys, hworkers, hset⟩
  have hindices := h.indices
  unfold tickets at hindices
  rw [hworkers, List.map_append, List.map_cons, List.map_append, List.map_cons,
    List.nodup_middle, List.nodup_cons, ← List.map_append, ← List.map_append] at hindices
  have hother : v ∈ xs ++ ys → v ∈ p.workers ∧ v.ticket.index ≠ w.ticket.index := by
    intro hmem
    constructor
    . rw [hworkers]
      simp only [List.mem_append, List.mem_cons] at hmem ⊢
      tauto
    . intro heq
      apply hindices.1
      rw [← heq]
      exact List.mem_map_of_mem (List.mem_map_of_mem hmem)
  rw [hset, List.mem_append, List.mem_cons] at hv
  rcases hv with hxs | heq | hys
  . exact .inr (hother (List.mem_append_left _ hxs))
  . exact .inl heq
  . exact .inr (hother (List.mem_append_right _ hys))

theorem tickets_set {i : Nat} {w w' : Worker} (hw : p.workers[i]? = some w)
    (hticket : w'.ticket = w.ticket) : (p.workers.set i w').map (·.ticket) = p.tickets := by
  rcases exists_append_of_getElem? hw with ⟨xs, ys, hworkers, hset⟩
  unfold tickets
  rw [hset, hworkers, List.map_append, List.map_append, List.map_cons, List.map_cons, hticket]

theorem Proceeds.step (h : p.Proceeds s₀) {i : Nat} (hs : p.step? i = some q)
    : q.Proceeds s₀ ∧ q.crew = p.crew ∧ q.tickets = p.tickets := by
  rcases step?_eq_some hs with ⟨w, w', s, hw, hstep, rfl⟩
  have hmem : w ∈ p.workers := List.mem_of_getElem? hw
  have hprogress := Worker.progress_step? h.inStep (h.stands w hmem) hstep
  have htickets := tickets_set hw hprogress.ticket
  refine ⟨⟨hprogress.advances.inStep, ?_, ?_, ?_, ?_⟩, rfl, htickets⟩
  . unfold tickets
    dsimp only
    rw [htickets]
    exact h.indices
  . intro v hv
    -- the other workers have other tickets, so the step changes nothing for them
    cases h.mem_set hw hv with
    | inl heq => rw [heq]; exact hprogress.stands
    | inr hother =>
      exact (h.stands v hother.1).of_sameAt (hprogress.advances.others _ hother.2)
  . intro k hk
    unfold tickets at hk
    dsimp only at hk
    rw [htickets] at hk
    refine (h.others k hk).trans (hprogress.advances.others k ?_)
    rintro rfl
    exact hk (List.mem_map_of_mem (List.mem_map_of_mem hmem))
  . exact h.samePass.trans hprogress.advances.samePass

theorem Proceeds.reach (h : p.Proceeds s₀) (hr : p.Reach q)
    : q.Proceeds s₀ ∧ q.crew = p.crew ∧ q.tickets = p.tickets := by
  induction hr with
  | refl => exact ⟨h, rfl, rfl⟩
  | step i _ hs ih =>
    have := ih.1.step hs
    exact ⟨this.1, this.2.1.trans ih.2.1, this.2.2.trans ih.2.2⟩

theorem tickets_ofPhase (crew : Crew) (s : Shared) (phase : Phase)
    : (ofPhase crew s phase).tickets = phase.tickets := by
  unfold ofPhase tickets
  rw [List.map_map]
  exact List.map_id _

theorem proceeds_ofPhase (crew : Crew) {phase : Phase} (hs : s₀.board.InStep)
    (hindices : (phase.tickets.map (·.index)).Nodup)
    (hadmitted : ∀ t ∈ phase.tickets, t.index ∈ s₀.board.tally.admitted)
    (hstarted : ∀ t ∈ phase.tickets, t.index ∉ s₀.board.tally.started)
    : (ofPhase crew s₀ phase).Proceeds s₀ := by
  constructor
  . exact hs
  . rw [tickets_ofPhase]
    exact hindices
  . intro w hw
    rcases List.mem_map.1 hw with ⟨t, ht, rfl⟩
    exact ⟨hadmitted t ht, hstarted t ht, rfl, rfl⟩
  . intro i _
    exact .refl i s₀
  . exact .refl _

theorem Proceeds.results (h : p.Proceeds s₀) (hd : p.isDone = true)
    : p.results = .ok (p.tickets.map fun t =>
        t.withOutcome (t.outcomeAt p.crew (s₀.nextAttempt t.index))) ∧
      ∀ t ∈ p.tickets, t.Ended p.crew s₀ p.shared := by
  have hgone : ∀ w ∈ p.workers, w.ticket.Ended p.crew s₀ p.shared ∧ w.result = .ok
      (w.ticket.withOutcome (w.ticket.outcomeAt p.crew (s₀.nextAttempt w.ticket.index))) := by
    intro w hw
    have hstands := h.stands w hw
    have hdone := List.all_eq_true.1 hd w hw
    unfold Worker.isGone at hdone
    unfold Worker.Stands at hstands
    unfold Worker.result
    split at hdone
    . next result hstage =>
      rw [hstage] at hstands
      exact hstands
    . simp at hdone
  constructor
  . unfold Pool.results tickets
    rw [List.map_map]
    clear hd
    generalize p.workers = ws at hgone
    induction ws with
    | nil => rfl
    | cons w ws ih =>
      rw [List.mapM_cons, (hgone w List.mem_cons_self).2, ih]
      . rfl
      . intro v hv
        exact hgone v (List.mem_cons_of_mem _ hv)
  . intro t ht
    rcases List.mem_map.1 ht with ⟨w, hw, rfl⟩
    exact (hgone w hw).1

theorem Proceeds.running_eq_nil (h : p.Proceeds s₀) (hs : s₀.board.InStep)
    (hrun : s₀.board.feed.running = []) (hd : p.isDone = true)
    : p.shared.board.feed.running = [] := by
  rw [List.eq_nil_iff_forall_not_mem]
  intro l hl
  rcases (h.inStep.mem_iff _).1 (List.mem_map_of_mem hl) with ⟨i, hstarted, hsettled, -⟩
  by_cases hi : i ∈ p.tickets.map (·.index)
  . rcases List.mem_map.1 hi with ⟨t, ht, rfl⟩
    exact hsettled ((h.results hd).2 t ht).settled
  . have hsame := h.others i hi
    rcases hs.exists_line.2 ⟨hsame.started.1 hstarted, mt hsame.settled.2 hsettled⟩
      with ⟨l', hl', -⟩
    rw [hrun] at hl'
    simp at hl'

end Pool

end SetupBatch
