import SetupBatch.Batch
import SetupBatch.Proofs.Pool

/-!
This module contains the verification of passes: the phases of a pass hold every ticket once, and a
pass goes through whatever the outcomes and the order of the workers are, with one attempt at each
of its tickets.
-/

namespace SetupBatch

namespace Phase

theorem flatMap_single (name : String) (tickets : List Ticket)
    : (single name tickets).flatMap (·.tickets) = tickets := by
  unfold single
  split
  . next h =>
    rw [List.isEmpty_iff.1 h]
    rfl
  . simp

theorem flatMap_filter (ps : List Phase)
    : (ps.filter (! ·.tickets.isEmpty)).flatMap (·.tickets) = ps.flatMap (·.tickets) := by
  induction ps with
  | nil => rfl
  | cons p ps ih =>
    rw [List.filter_cons]
    split
    . rw [List.flatMap_cons, List.flatMap_cons, ih]
    . next h =>
      rw [Bool.not_eq_true, Bool.not_eq_false', List.isEmpty_iff] at h
      rw [List.flatMap_cons, ih, h]
      rfl

theorem flatMap_split (tickets : List Ticket)
    : (split tickets).flatMap (·.tickets) =
        tickets.filter (! ·.profile.dependsOnPrerequisite) ++
          tickets.filter (·.profile.dependsOnPrerequisite) := by
  unfold split
  rw [List.partition_eq_filter_filter]
  dsimp only
  rw [flatMap_filter]
  simp [Function.comp_def]

theorem flatMap_split_perm (tickets : List Ticket)
    : ((split tickets).flatMap (·.tickets)).Perm tickets := by
  rw [flatMap_split]
  apply List.perm_append_comm.trans
  apply List.filter_append_perm

end Phase

theorem Batch.phases_perm (target : Target) (retry : Bool) (tickets : List Ticket)
    : ((phases target retry tickets).flatMap (·.tickets)).Perm tickets := by
  unfold phases
  split
  . rw [Phase.flatMap_single]
  . split
    . rw [Phase.flatMap_single]
    . apply Phase.flatMap_split_perm

def Ticket.next (crew : Crew) (s : Shared) (t : Ticket) : Ticket :=
  t.withOutcome (t.outcomeAt crew (s.nextAttempt t.index))

theorem Ticket.Ended.of_begin {crew : Crew} {s₀ s₁ s : Shared} {t : Ticket}
    (h : t.Ended crew s₁ s) (hs : s₀.SameAt t.index s₁) : t.Ended crew s₀ s := by
  have hnumber : s₁.nextAttempt t.index = s₀.nextAttempt t.index := congrArg (· + 1) hs.called
  constructor
  . exact h.settled
  . rw [← hnumber]
    exact h.failed
  . rw [h.begun, hs.begun]
  . rw [h.called, hs.called]

namespace Shared

/--
All of these tickets have ended between two moments at which no line runs, and nothing has become of
any other.
-/
structure Through (crew : Crew) (tickets : List Ticket) (s s' : Shared) : Prop where
  inStep : s'.board.InStep
  running : s'.board.feed.running = []
  ended : ∀ t ∈ tickets, t.Ended crew s s'
  others : ∀ i, i ∉ tickets.map (·.index) → s.SameAt i s'
  samePass : s.board.tally.SamePass s'.board.tally

/-- These tickets may run in some order of phases: they are admitted and none has started. -/
structure Ready (tickets : List Ticket) (s : Shared) : Prop where
  inStep : s.board.InStep
  running : s.board.feed.running = []
  indices : (tickets.map (·.index)).Nodup
  admitted : ∀ t ∈ tickets, t.index ∈ s.board.tally.admitted
  started : ∀ t ∈ tickets, t.index ∉ s.board.tally.started

variable {crew : Crew} {s s' s'' : Shared} {xs ys : List Ticket}

theorem Ready.left (h : s.Ready (xs ++ ys)) : s.Ready xs where
  inStep := h.inStep
  running := h.running
  indices := by
    have := h.indices
    rw [List.map_append] at this
    exact this.of_append_left
  admitted t ht := h.admitted t (List.mem_append_left _ ht)
  started t ht := h.started t (List.mem_append_left _ ht)

theorem Ready.notMem_left (h : s.Ready (xs ++ ys)) {t : Ticket} (ht : t ∈ ys)
    : t.index ∉ xs.map (·.index) := by
  have hindices := h.indices
  rw [List.map_append, List.nodup_append] at hindices
  intro hmem
  exact hindices.2.2 _ hmem _ (List.mem_map_of_mem ht) rfl

theorem Ready.right (h : s.Ready (xs ++ ys)) (hs : s.Through crew xs s') : s'.Ready ys where
  inStep := hs.inStep
  running := hs.running
  indices := by
    have := h.indices
    rw [List.map_append] at this
    exact this.of_append_right
  admitted t ht := by
    rw [hs.samePass.admitted]
    exact h.admitted t (List.mem_append_right _ ht)
  started t ht := by
    rw [(hs.others t.index (h.notMem_left ht)).started]
    exact h.started t (List.mem_append_right _ ht)

theorem Through.refl (h : s.Ready []) : s.Through crew [] s where
  inStep := h.inStep
  running := h.running
  ended := by simp
  others i _ := .refl i s
  samePass := .refl _

theorem Through.trans (h : s.Ready (xs ++ ys)) (hx : s.Through crew xs s')
    (hy : s'.Through crew ys s'') : s.Through crew (xs ++ ys) s'' where
  inStep := hy.inStep
  running := hy.running
  ended t ht := by
    by_cases hmem : t ∈ ys
    . exact (hy.ended t hmem).of_begin (hx.others _ (h.notMem_left hmem))
    . have hxs : t ∈ xs := (List.mem_append.1 ht).resolve_right hmem
      refine (hx.ended t hxs).of_sameAt (hy.others _ ?_)
      intro hindex
      rcases List.mem_map.1 hindex with ⟨u, hu, heq⟩
      apply h.notMem_left hu
      rw [heq]
      exact List.mem_map_of_mem hxs
  others i hi := by
    rw [List.map_append, List.mem_append, not_or] at hi
    exact (hx.others i hi.1).trans (hy.others i hi.2)
  samePass := hx.samePass.trans hy.samePass

theorem Ready.of_perm (h : s.Ready xs) (hperm : ys.Perm xs) : s.Ready ys where
  inStep := h.inStep
  running := h.running
  indices := (hperm.map _).nodup_iff.2 h.indices
  admitted t ht := h.admitted t (hperm.mem_iff.1 ht)
  started t ht := h.started t (hperm.mem_iff.1 ht)

theorem Ready.proceeds {p : Phase} (h : s.Ready p.tickets) (crew : Crew)
    : (Pool.ofPhase crew s p).Proceeds s :=
  Pool.proceeds_ofPhase crew h.inStep h.indices h.admitted h.started

theorem Ready.reach {p : Phase} {q : Pool} (h : s.Ready p.tickets)
    (hq : (Pool.ofPhase crew s p).Reach q)
    : q.Proceeds s ∧ q.crew = crew ∧ q.tickets = p.tickets := by
  rw [← Pool.tickets_ofPhase crew s p]
  exact (h.proceeds crew).reach hq

theorem Through.of_perm (h : s.Through crew xs s') (hperm : ys.Perm xs)
    : s.Through crew ys s' where
  inStep := h.inStep
  running := h.running
  ended t ht := h.ended t (hperm.mem_iff.1 ht)
  others i hi := h.others i (mt (hperm.map _).mem_iff.2 hi)
  samePass := h.samePass

theorem Through.perm_of_settled (h : s.Through crew xs s') (hindices : (xs.map (·.index)).Nodup)
    (hmem : ∀ t ∈ ys, t ∈ xs) (hsettled : s'.board.tally.settled = (ys.map (·.index)).reverse)
    : ys.Perm xs := by
  have hnodup := h.inStep.regular.settled
  rw [hsettled, List.nodup_reverse] at hnodup
  rw [List.perm_ext_iff_of_nodup (.of_map _ hnodup) (.of_map _ hindices)]
  intro t
  refine ⟨hmem t, ?_⟩
  intro ht
  have hended := (h.ended t ht).settled
  rw [hsettled, List.mem_reverse] at hended
  rcases List.mem_map.1 hended with ⟨u, hu, heq⟩
  rwa [List.inj_on_of_nodup_map hindices (hmem u hu) ht heq] at hu

end Shared

namespace Batch

variable (d : Discipline)

theorem runPhase_eq (b : Batch) {p : Phase} (h : b.shared.Ready p.tickets)
    : ∃ s, b.runPhase d p = (.ok (), { b with
        shared := s, results := b.results.store (p.tickets.map (·.next b.crew b.shared)) }) ∧
      b.shared.Through b.crew p.tickets s := by
  have hdone := d.isDone_drain (.ofPhase b.crew b.shared p)
  rcases h.reach (d.reach_drain _) with ⟨hend, hcrew, htickets⟩
  have hresults := hend.results hdone
  have hrun := hend.running_eq_nil h.inStep h.running hdone
  have hothers := hend.others
  rw [htickets] at hothers
  rw [htickets, hcrew] at hresults
  refine ⟨(d.drain (.ofPhase b.crew b.shared p)).shared, ?_, ?_⟩
  . unfold runPhase
    dsimp only
    rw [hresults.1]
    rfl
  . exact ⟨hend.inStep, hrun, hresults.2, hothers, hend.samePass⟩

theorem store_append (r : Results) (xs ys : List Ticket)
    : r.store (xs ++ ys) = (r.store xs).store ys := by
  unfold Results.store
  rw [List.foldl_append]

/-- The phases go through one after the other, and each finds its tickets as the first one did. -/
theorem runPhases_eq (b : Batch) (ps : List Phase) (h : b.shared.Ready (ps.flatMap (·.tickets)))
    : ∃ s, runPhases d b ps = (.ok (), { b with
        shared := s
        results := b.results.store ((ps.flatMap (·.tickets)).map (·.next b.crew b.shared)) }) ∧
      b.shared.Through b.crew (ps.flatMap (·.tickets)) s := by
  induction ps generalizing b with
  | nil => exact ⟨b.shared, rfl, .refl h⟩
  | cons p ps ih =>
    rw [List.flatMap_cons] at h ⊢
    rcases runPhase_eq d b h.left with ⟨s, hp, hthrough⟩
    rcases ih { b with shared := s, results := _ } (h.right hthrough) with ⟨s', hps, hthrough'⟩
    refine ⟨s', ?_, hthrough.trans h hthrough'⟩
    unfold runPhases
    rw [hp]
    dsimp only
    rw [hps, List.map_append, store_append]
    -- the phase has run no code of the later tickets, so their attempts keep their numbers
    have hnext : (ps.flatMap (·.tickets)).map (·.next b.crew s) =
        (ps.flatMap (·.tickets)).map (·.next b.crew b.shared) := by
      apply List.map_congr_left
      intro t ht
      unfold Ticket.next Shared.nextAttempt
      have := (hthrough.others t.index (h.notMem_left ht)).called
      unfold Shared.called at this
      rw [this]
    rw [hnext]

structure Primed (b : Batch) : Prop where
  heard : b.board.stream.heard = true
  sound : b.board.feed.Sound
  running : b.board.feed.running = []
  pass : b.standing.pass = {}
  failed : b.failed = []
  indices : (b.pending.map (·.index)).Nodup

def opened (b : Batch) : Batch :=
  { b with pending := [] }.withBoard (b.board.beginPass b.pending)

theorem Primed.ready {b : Batch} (h : b.Primed) : b.opened.shared.Ready b.pending := by
  have hregular := Tally.Regular.begin b.pending h.pass h.failed
  constructor
  . constructor
    . exact (Stream.heard_tell _ _).trans h.heard
    . exact h.sound
    . exact hregular
    . show (b.board.feed.running.map (·.task)).Nodup
      rw [h.running]
      exact List.nodup_nil
    . intro task
      show task ∈ b.board.feed.running.map (·.task) ↔ ∃ i ∈ [], i ∉ [] ∧ task = some i
      rw [h.running]
      simp
  . exact h.running
  . exact h.indices
  . intro t ht
    show t.index ∈ (b.pending.map (·.index)).eraseDups
    rw [List.mem_eraseDups]
    exact List.mem_map_of_mem ht
  . intro t _
    apply List.not_mem_nil

/--
What a pass makes of a batch, whatever the order of its workers.
-/
structure PassDone (b b' : Batch) : Prop where
  inStep : b'.board.InStep
  running : b'.board.feed.running = []
  drained : b'.board.tally.isDrained = true
  begun : ∀ i, b'.board.begun i = b.board.begun i + if i ∈ b.pending.map (·.index) then 1 else 0
  called : ∀ t ∈ b.pending,
    b'.shared.called t.index = b.shared.called t.index + b.crew.callsFor t.profile
  called_other : ∀ i, i ∉ b.pending.map (·.index) → b'.shared.called i = b.shared.called i
  mem_failed : ∀ u, u ∈ b'.failed ↔ ∃ t ∈ b.pending,
    t.outcomeAt b.crew (b.shared.nextAttempt t.index) = .failed ∧ u = t.withOutcome .failed
  started : b'.standing.pass.started = b.pending.length
  completed : b'.standing.pass.completed = b.pending.length
  passSize : b'.standing.passSize = b.pending.length
  carried : b'.standing.carried = b.standing.carried
  retryCycle : b'.standing.retryCycle = b.standing.retryCycle
  retryBudget : b'.standing.retryBudget = b.standing.retryBudget
  results : ∃ ts : List Ticket, ts.Perm b.pending ∧
    b'.results = b.results.store (ts.map (·.next b.crew b.shared))
  rest : b' = { b with shared := b'.shared, results := b'.results, pending := [] }

theorem opened_sameAt (b : Batch) (i : Nat)
    : b.opened.board.begun i = b.board.begun i ∧ b.opened.shared.called i = b.shared.called i := by
  constructor
  . apply Stream.countP_tell
    rfl
  . rfl

theorem drained_of_through {b : Batch} (h : b.Primed) {s : Shared}
    (hs : b.opened.shared.Through b.crew b.pending s)
    : s.board.tally.isDrained = true ∧ s.board.tally.standing.pass.started = b.pending.length ∧
        s.board.tally.standing.pass.completed = b.pending.length := by
  have hregular := hs.inStep.regular
  have hadmitted : ∀ i, i ∈ s.board.tally.admitted ↔ i ∈ b.pending.map (·.index) := by
    intro i
    rw [hs.samePass.admitted]
    exact List.mem_eraseDups
  have hsettled : ∀ i, i ∈ b.pending.map (·.index) → i ∈ s.board.tally.settled := by
    intro i hi
    rcases List.mem_map.1 hi with ⟨t, ht, rfl⟩
    exact (hs.ended t ht).settled
  -- the counters are lengths of lists that hold each pending index once
  have hlength : ∀ is : List Nat, is.Nodup → (∀ i, i ∈ is ↔ i ∈ b.pending.map (·.index)) →
      is.length = b.pending.length := by
    intro is hnodup hmem
    rw [((List.perm_ext_iff_of_nodup hnodup h.indices).2 hmem).length_eq, List.length_map]
  refine ⟨?_, ?_, ?_⟩
  . rw [hregular.isDrained_iff]
    intro i hi
    exact hsettled i ((hadmitted i).1 hi)
  . rw [hregular.pass_started]
    apply hlength _ hregular.started
    intro i
    constructor
    . intro hi
      exact (hadmitted i).1 (hregular.started_sub i hi)
    . intro hi
      exact hregular.settled_sub i (hsettled i hi)
  . rw [hregular.pass_completed]
    apply hlength _ hregular.settled
    intro i
    constructor
    . intro hi
      exact (hadmitted i).1 (hregular.started_sub i (hregular.settled_sub i hi))
    . exact hsettled i

theorem mem_failed_of_through {b : Batch} {s : Shared}
    (hs : b.opened.shared.Through b.crew b.pending s) (u : Ticket)
    : u ∈ s.board.tally.failed ↔ ∃ t ∈ b.pending,
        t.outcomeAt b.crew (b.shared.nextAttempt t.index) = .failed ∧
          u = t.withOutcome .failed := by
  have hregular := hs.inStep.regular
  constructor
  . intro hu
    have hi := hregular.started_sub _ (hregular.settled_sub _ (hregular.failed_sub u hu).1)
    rw [hs.samePass.admitted] at hi
    rcases List.mem_map.1 (List.mem_eraseDups.1 hi) with ⟨t, ht, heq⟩
    exact ⟨t, ht, ((hs.ended t ht).failed u heq.symm).1 hu⟩
  . rintro ⟨t, ht, hfailed, rfl⟩
    exact ((hs.ended t ht).failed (t.withOutcome .failed) rfl).2 ⟨hfailed, rfl⟩

theorem runPass_of_runPhases {b b' : Batch} {retry : Bool}
    (h : runPhases d b.opened (phases b.options.target retry b.pending) = (.ok (), b'))
    : b.runPass d retry = (.ok b'.failed.length, b'.withBoard b'.board.endPass) := by
  unfold opened withBoard at h
  unfold runPass
  simp only [withBoard]
  rw [h]

theorem runPass_eq {b : Batch} (h : b.Primed) (retry : Bool)
    : ∃ b', b.runPass d retry = (.ok b'.failed.length, b') ∧ b.PassDone b' := by
  have hperm := phases_perm b.options.target retry b.pending
  rcases runPhases_eq d b.opened _ (h.ready.of_perm hperm) with ⟨s, hphases, hthrough⟩
  have hthrough : b.opened.shared.Through b.crew b.pending s := hthrough.of_perm hperm.symm
  have hdrained := drained_of_through h hthrough
  have hclosed := Board.Alike.endPass s.board
  have hpass := runPass_of_runPhases d hphases
  generalize hresults : Results.store _ _ = results at hpass
  generalize hfinal : withBoard _ _ = b' at hpass
  have hboard : b'.board = s.board.endPass := by rw [← hfinal]; rfl
  have htally : b'.board.tally = s.board.tally := by rw [hboard, hclosed.tally]
  have hcalled : ∀ i, b'.shared.called i = s.called i := by rw [← hfinal]; exact fun _ => rfl
  refine ⟨b', ?_, ?_⟩
  . rw [hpass]
    unfold failed
    rw [htally]
  have hsame := hthrough.samePass
  constructor
  . rw [hboard]
    exact hclosed.inStep hthrough.inStep
  . rw [hboard, hclosed.running]
    exact hthrough.running
  . rw [htally]
    exact hdrained.1
  . intro i
    rw [hboard, hclosed.begun, ← (b.opened_sameAt i).1]
    split
    . next hi =>
      rcases List.mem_map.1 hi with ⟨t, ht, rfl⟩
      exact (hthrough.ended t ht).begun
    . next hi => exact (hthrough.others i hi).begun
  . intro t ht
    rw [hcalled]
    exact (hthrough.ended t ht).called
  . intro i hi
    rw [hcalled]
    exact (hthrough.others i hi).called
  . intro u
    unfold failed
    rw [htally]
    exact mem_failed_of_through hthrough u
  . unfold standing
    rw [htally]
    exact hdrained.2.1
  . unfold standing
    rw [htally]
    exact hdrained.2.2
  . unfold standing
    rw [htally]
    exact hsame.passSize
  . unfold standing
    rw [htally]
    exact hsame.carried
  . unfold standing
    rw [htally]
    exact hsame.retryCycle
  . unfold standing
    rw [htally]
    exact hsame.retryBudget
  . refine ⟨_, hperm, ?_⟩
    rw [← hfinal]
    exact hresults.symm
  . rw [← hfinal]
    rfl

end Batch

end SetupBatch
