import SetupBatch.Proofs.Operation
import SetupBatch.Proofs.Pass

/-!
This module contains what the workers of a pass do to the board, as operations: each step of a
worker is at most one operation, so that whatever the operations keep is kept by every pass. What is
kept only by the acts of workers that stand where they should is kept by every pass too.
-/

namespace SetupBatch

def Operation.isWork : Operation → Bool
  | .start _ | .finish .. | .say .. | .request .. => true
  | _ => false

namespace Board

inductive Works (b : Board) : Board → Prop where
  | idle : Works b b
  | carryOut (op : Operation) : op.isWork = true → Works b (b.carryOut op)

def WorksTo (b b' : Board) : Prop :=
  ∃ ops : List Operation, (∀ op ∈ ops, op.isWork = true) ∧ b' = b.carryOutAll ops

namespace WorksTo

variable {b b' b'' : Board}

theorem refl (b : Board) : b.WorksTo b := ⟨[], by simp, rfl⟩

theorem trans (h : b.WorksTo b') (h' : b'.WorksTo b'') : b.WorksTo b'' := by
  rcases h with ⟨xs, hxs, rfl⟩
  rcases h' with ⟨ys, hys, rfl⟩
  refine ⟨xs ++ ys, ?_, ?_⟩
  . intro op hop
    cases List.mem_append.1 hop with
    | inl hmem => exact hxs op hmem
    | inr hmem => exact hys op hmem
  . rw [carryOutAll_append]

theorem of_works (h : b.Works b') : b.WorksTo b' := by
  cases h with
  | idle => exact refl b
  | carryOut op hop => exact ⟨[op], by simpa using hop, rfl⟩

theorem keeps {P : Board → Prop} (h : b.WorksTo b')
    (hkeeps : ∀ c op, op.isWork = true → P c → P (c.carryOut op)) (hb : P b) : P b' := by
  rcases h with ⟨ops, hops, rfl⟩
  induction ops generalizing b with
  | nil => exact hb
  | cons op ops ih =>
    apply ih
    . exact hkeeps b op (hops op List.mem_cons_self) hb
    . intro op' hop'
      exact hops op' (List.mem_cons_of_mem _ hop')

end WorksTo

end Board

theorem Shared.works_perform (s : Shared) (e : Effect) : s.board.Works (s.perform e).board := by
  cases e with
  | sleep ms => exact .idle
  | say text severity => exact .carryOut (.say text severity) rfl
  | write key content => exact .carryOut (.request (s.notebook.write key content).1 .add) rfl
  | post key => exact .carryOut (.request (s.notebook.lookUp key).1 .add) rfl
  | withdraw key => exact .carryOut (.request (s.notebook.lookUp key).1 .remove) rfl

namespace Worker

variable {crew : Crew} {s₀ s₁ s s' : Shared} {w w' : Worker}

theorem board_start (crew : Crew) (s : Shared) (w : Worker)
    : (w.start crew s).2.board = s.board.carryOut (.start w.ticket) := by
  unfold start
  split
  . next e board h => exact (congrArg Prod.snd h).symm
  . next line board h =>
    have hboard : board = (s.board.start w.ticket).2 := (congrArg Prod.snd h).symm
    rw [hboard]
    unfold Shared.dispatch
    dsimp only
    split <;> rfl

theorem works_step? {free : Bool} (h : w.step? crew free s = some (w', s'))
    : s.board.Works s'.board := by
  cases steps_of_step? h with
  | take _ _ => exact .idle
  | start _ =>
    rw [board_start]
    exact .carryOut _ rfl
  | perform line effect rest ending _ => apply Shared.works_perform
  | report line ending _ => exact .carryOut (.finish (w.ticket.withOutcome _) line _ _) rfl
  | leave _ _ => exact .idle

/--
What a worker does in one step, if it stands where its stage says: it rests, its ticket starts, it
performs an effect, or its ticket reports the verdict on the attempt.
-/
inductive Acts (crew : Crew) (s₀ s : Shared) (w : Worker) : Shared → Prop where
  | rests : Acts crew s₀ s w s
  | starts {s' : Shared} {line : LineId} :
    s.board.start w.ticket = (.ok line, s'.board) → s.board.Starts w.ticket line s'.board →
    s'.notebook = s.notebook → Acts crew s₀ s w s'
  | performs (effect : Effect) : Acts crew s₀ s w (s.perform effect)
  | reports {line : LineId} {board : Board} (o : Outcome) (detail : Option String) :
    ((w.ticket.attemptAt crew (s₀.nextAttempt w.ticket.index)).ending.verdict
      w.ticket.profile.requiresReboot) = (o, detail) →
    s.board.finish (w.ticket.withOutcome o) line o detail = (.ok (), board) →
    s.board.Finishes (w.ticket.withOutcome o) line o board → Acts crew s₀ s w { s with board }

theorem Acts.of_begin (h : w.Acts crew s₁ s s')
    (hs : s₁.nextAttempt w.ticket.index = s₀.nextAttempt w.ticket.index) : w.Acts crew s₀ s s' := by
  cases h with
  | rests => exact .rests
  | starts hstart hstarts hnotebook => exact .starts hstart hstarts hnotebook
  | performs effect => exact .performs effect
  | reports o detail hverdict hfinish hfinishes =>
    rw [hs] at hverdict
    exact .reports o detail hverdict hfinish hfinishes

theorem notebook_start (crew : Crew) (s : Shared) (w : Worker)
    : (w.start crew s).2.notebook = s.notebook := by
  unfold start
  split
  . rfl
  . unfold Shared.dispatch
    dsimp only
    split <;> rfl

theorem acts_step? (hs : s.board.InStep) (h : w.Stands crew s₀ s) {free : Bool}
    (hstep : w.step? crew free s = some (w', s')) : w.Acts crew s₀ s s' := by
  unfold Stands at h
  cases steps_of_step? hstep with
  | take _ _ => exact .rests
  | start hw =>
    rw [hw] at h
    rcases hs.start h.admitted h.started with ⟨line, board, hstart, hstarts⟩
    have hboard : (w.start crew s).2.board = board := by
      rw [board_start]
      exact congrArg Prod.snd hstart
    rw [← hboard] at hstart hstarts
    exact .starts hstart hstarts (notebook_start crew s w)
  | perform line effect rest ending _ => exact .performs effect
  | report line ending hw =>
    rw [hw] at h
    rcases h.1.line with ⟨l, hl, rfl, htask⟩
    generalize hverdict : ending.verdict w.ticket.profile.requiresReboot = verdict
    rcases hs.finish (t := w.ticket.withOutcome verdict.1) h.1.started h.1.settled hl htask
      verdict.1 verdict.2 with ⟨board, hfinish, hfinishes⟩
    have hreport : (w.report s l.id ending).2 = { s with board } := by
      unfold report
      rw [hverdict]
      dsimp only
      rw [hfinish]
    rw [hreport]
    rw [h.2] at hverdict
    exact .reports verdict.1 verdict.2 hverdict hfinish hfinishes
  | leave _ _ => exact .rests

end Worker

def Shared.Keeps (crew : Crew) (tickets : List Ticket) (s₀ : Shared) (P : Shared → Prop) : Prop :=
  ∀ ⦃w : Worker⦄ ⦃s s' : Shared⦄, w.ticket ∈ tickets → s.board.InStep →
    w.Acts crew s₀ s s' → P s → P s'

theorem Pool.Proceeds.keeps {P : Shared → Prop} {s₀ : Shared} {p q : Pool} (hp : p.Proceeds s₀)
    (hr : p.Reach q) (hkeeps : s₀.Keeps p.crew p.tickets P) (h : P p.shared) : P q.shared := by
  induction hr with
  | refl => exact h
  | step i hr hs ih =>
    rcases hp.reach hr with ⟨hq, hcrew, htickets⟩
    rcases step?_eq_some hs with ⟨w, w', s, hw, hstep, rfl⟩
    have hmem := List.mem_of_getElem? hw
    have hstands := hcrew ▸ hq.stands w hmem
    rw [hcrew] at hstep
    apply hkeeps _ hq.inStep (Worker.acts_step? hq.inStep hstands hstep) ih
    rw [← htickets]
    exact List.mem_map_of_mem hmem

theorem Pool.Reach.worksTo {p q : Pool} (h : p.Reach q)
    : p.shared.board.WorksTo q.shared.board := by
  induction h with
  | refl => exact .refl _
  | step i _ hs ih =>
    rcases step?_eq_some hs with ⟨w, w', s, -, hstep, rfl⟩
    exact ih.trans (.of_works (Worker.works_step? hstep))

namespace Batch

variable (d : Discipline)

theorem shared_runPhase (b : Batch) (p : Phase)
    : (b.runPhase d p).2.shared = (d.drain (.ofPhase b.crew b.shared p)).shared := by
  unfold runPhase
  dsimp only
  split <;> rfl

theorem worksTo_runPhase (b : Batch) (p : Phase)
    : b.board.WorksTo (b.runPhase d p).2.board := by
  unfold board
  rw [shared_runPhase]
  exact (d.reach_drain (.ofPhase b.crew b.shared p)).worksTo

theorem worksTo_runPhases (b : Batch) (ps : List Phase)
    : b.board.WorksTo (runPhases d b ps).2.board := by
  induction ps generalizing b with
  | nil => exact .refl _
  | cons p ps ih =>
    have hphase := worksTo_runPhase d b p
    unfold runPhases
    split
    . next h =>
      rw [h] at hphase
      exact hphase
    . next h =>
      rw [h] at hphase
      exact hphase.trans (ih _)

theorem runPhases_keeps {P : Shared → Prop} {b b' : Batch} {ps : List Phase}
    (hready : b.shared.Ready (ps.flatMap (·.tickets))) (h : runPhases d b ps = (.ok (), b'))
    (hkeeps : b.shared.Keeps b.crew (ps.flatMap (·.tickets)) P) (hb : P b.shared)
    : P b'.shared := by
  induction ps generalizing b with
  | nil =>
    cases h
    exact hb
  | cons p ps ih =>
    rw [List.flatMap_cons] at hready hkeeps
    rcases runPhase_eq d b hready.left with ⟨s, hphase, hthrough⟩
    have hs : P s := by
      have hpool := Pool.Proceeds.keeps (P := P) (hready.left.proceeds b.crew) (d.reach_drain _)
      rw [Pool.tickets_ofPhase, ← shared_runPhase, hphase] at hpool
      apply hpool _ hb
      intro w s s' hw
      exact hkeeps (List.mem_append_left _ hw)
    unfold runPhases at h
    rw [hphase] at h
    apply ih (b := { b with shared := s, results := _ }) (hready.right hthrough) h _ hs
    -- the first phase has run no code of the later tickets
    intro w r r' hw hr hacts
    apply hkeeps (List.mem_append_right _ hw) hr (hacts.of_begin _)
    exact congrArg (· + 1) (hthrough.others _ (hready.notMem_left hw)).called

theorem Primed.through {P : Shared → Prop} {b b' : Batch} {retry : Bool} (h : b.Primed)
    (hphases : runPhases d b.opened (phases b.options.target retry b.pending) = (.ok (), b'))
    (hkeeps : b.opened.shared.Keeps b.crew b.pending P) (hb : P b.opened.shared)
    : P b'.shared ∧ b.opened.shared.Through b.crew b.pending b'.shared := by
  have hperm := phases_perm b.options.target retry b.pending
  have hready := h.ready.of_perm hperm
  rcases runPhases_eq d b.opened _ hready with ⟨s, heq, hthrough⟩
  have hkept := runPhases_keeps d hready hphases
    (fun w s s' hw => hkeeps (hperm.mem_iff.1 hw)) hb
  rw [hphases] at heq
  cases heq
  exact ⟨hkept, hthrough.of_perm hperm.symm⟩

theorem runPhases_of_runPass {b b' : Batch} {retry : Bool} {failed : Nat}
    (h : b.runPass d retry = (.ok failed, b'))
    : ∃ b₁, runPhases d b.opened (phases b.options.target retry b.pending) = (.ok (), b₁) ∧
        b' = b₁.withBoard b₁.board.endPass := by
  unfold opened withBoard
  unfold runPass at h
  simp only [withBoard] at h
  split at h
  . cases h
  . next b₁ hphases =>
    cases h
    exact ⟨b₁, hphases, rfl⟩

theorem board_runPass {b b' : Batch} {retry : Bool} {failed : Nat}
    (h : b.runPass d retry = (.ok failed, b'))
    : ∃ board : Board, b.opened.board.WorksTo board ∧ b'.board = board.endPass := by
  rcases runPhases_of_runPass d h with ⟨b₁, hphases, rfl⟩
  have hwork := worksTo_runPhases d b.opened (phases b.options.target retry b.pending)
  rw [hphases] at hwork
  exact ⟨b₁.board, hwork, rfl⟩

end Batch

end SetupBatch
