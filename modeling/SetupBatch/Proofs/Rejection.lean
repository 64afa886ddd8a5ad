import SetupBatch.Proofs.Session

/-!
This module contains the verification of what is rejected in a session. The gate is asked before
anything else happens: a call that it rejects leaves the whole batch as it was, so calls that were
rejected may be left out of a session, or put into one, and nothing else is answered or told
differently.
-/

namespace SetupBatch

namespace Batch

def Request.event? (b : Batch) : Request → Option Gate.Event
  | .run _ => some (.start b.pending.length)
  | .retry _ => some .retryRequested
  | .finish _ => some .dismissed
  | .say .. => none

def Awaits (b : Batch) : Prop := ∃ used failed, b.state = .awaitingRetry used failed

def Rejects (b : Batch) (r : Request) : Prop :=
  ∃ event, r.event? b = some event ∧
    b.serve r = (.error ⟨.invalidTransition, (⟨b.state, event⟩ : Gate.Rejection).text⟩, b)

end Batch

namespace Gate

theorem apply_eq_error {g : Gate} {e : Event}
    (h : ∀ actions state, ¬Moves g.budget g.state e actions state)
    : g.apply e = .error ⟨g.state, e⟩ := by
  unfold apply
  cases htransition : transition g.state e g.budget with
  | error r =>
    rw [transition_eq_error htransition]
  | ok moved => exact absurd (moves_of_transition htransition) (h moved.2 moved.1)

theorem apply_retryRequested_eq_error {g : Gate}
    (h : ∀ used failed, g.state ≠ .awaitingRetry used failed)
    : g.apply .retryRequested = .error ⟨g.state, .retryRequested⟩ := by
  apply apply_eq_error
  intro actions state hmoves
  generalize hs : g.state = s at hmoves
  cases hmoves with
  | retry message used failed => exact h used failed hs

theorem apply_dismissed_eq_error {g : Gate}
    (h : ∀ used failed, g.state ≠ .awaitingRetry used failed)
    : g.apply .dismissed = .error ⟨g.state, .dismissed⟩ := by
  apply apply_eq_error
  intro actions state hmoves
  generalize hs : g.state = s at hmoves
  cases hmoves with
  | dismiss message used failed => exact h used failed hs

end Gate

namespace Batch

variable {b₀ b : Batch} {j : Nat} {dismissed : Bool} (d : Discipline)

theorem Refuses.isOk {r : Request} (h : b.Refuses r) : (b.serve r).1.isOk = false := by
  rcases h with ⟨rejection, hserve⟩
  rw [hserve]
  rfl

theorem rejects_retry (h : ¬b.Awaits) : b.Rejects (.retry d) := by
  have happly := Gate.apply_retryRequested_eq_error (g := b.gate)
    fun used failed hstate => h ⟨used, failed, hstate⟩
  have hretry : b.retry d = (.error (⟨b.state, .retryRequested⟩ : Gate.Rejection).fault, b) := by
    unfold Batch.retry
    rw [happly]
    rfl
  exact ⟨_, rfl, serve_retry_eq d hretry⟩

theorem rejects_finish (h : ¬b.Awaits) : b.Rejects (.finish d) := by
  have happly := Gate.apply_dismissed_eq_error (g := b.gate)
    fun used failed hstate => h ⟨used, failed, hstate⟩
  have hfinish : b.finish d = (.error (⟨b.state, .dismissed⟩ : Gate.Rejection).fault, b) := by
    unfold Batch.finish
    rw [happly]
    rfl
  exact ⟨_, rfl, serve_finish_eq d hfinish⟩

theorem Fresh.not_awaits (h : Fresh b₀ b) : ¬b.Awaits := by
  rintro ⟨used, failed, hstate⟩
  unfold Batch.state at hstate
  rw [h.gate] at hstate
  cases hstate

namespace Paused

theorem rejects_run (h : Paused b₀ j dismissed b) : b.Rejects (.run d) := by
  have hrun : b.run d =
      (.error (⟨b.state, .start b.pending.length⟩ : Gate.Rejection).fault, b) := by
    unfold Batch.run
    rw [h.apply_start]
    rfl
  exact ⟨_, rfl, serve_run_eq d hrun⟩

theorem awaits_iff (h : Paused b₀ j dismissed b) : b.Awaits ↔ Offers b₀ j dismissed b := by
  constructor
  . rintro ⟨used, failed, hstate⟩
    by_contra ho
    rcases h.state_of_not_offers ho with ⟨exhausted, hfinished⟩
    rw [Batch.state, hfinished] at hstate
    cases hstate
  . intro ho
    exact ⟨j, b.failed.length, h.state_of_offers ho⟩

end Paused

end Batch

namespace Session

open Batch

variable {b₀ : Batch} {s : Session}

/-- Which calls a session accepts next, and what becomes of the others. -/
structure Guarded (s : Session) : Prop where
  run : ∀ d, (s.batch.serve (.run d)).1.isOk = true ↔ s.runs = 0
  retry : ∀ d, (s.batch.serve (.retry d)).1.isOk = true ↔ s.batch.Awaits
  finish : ∀ d, (s.batch.serve (.finish d)).1.isOk = true ↔ s.batch.Awaits
  rejects : ∀ r, (s.batch.serve r).1.isOk = false → s.batch.Rejects r

theorem Stands.isOk_run_iff (h : s.Stands b₀) (d : Discipline)
    : (s.batch.serve (.run d)).1.isOk = true ↔ s.runs = 0 := by
  cases h with
  | fresh hruns _ _ hfresh => simp [hruns, (hfresh.serve_run d).1]
  | paused hruns hpaused => simp [hruns, (hpaused.refuses_run d).isOk]

theorem Stands.isOk_iff_awaits (h : s.Stands b₀) {r : Request}
    (hfresh : Fresh b₀ s.batch → s.batch.Refuses r)
    (hrefused : ∀ j dismissed, Paused b₀ j dismissed s.batch → ¬Offers b₀ j dismissed s.batch →
      s.batch.Refuses r)
    (hserved : ∀ j dismissed, Paused b₀ j dismissed s.batch → Offers b₀ j dismissed s.batch →
      (s.batch.serve r).1.isOk = true)
    : (s.batch.serve r).1.isOk = true ↔ s.batch.Awaits := by
  cases h with
  | fresh _ _ _ hbatch => simp [hbatch.not_awaits, (hfresh hbatch).isOk]
  | paused _ hpaused =>
    rw [hpaused.awaits_iff]
    by_cases ho : Offers b₀ s.retries (0 < s.finishes) s.batch
    . simp [ho, hserved _ _ hpaused ho]
    . simp [ho, (hrefused _ _ hpaused ho).isOk]

theorem Stands.guarded (h : s.Stands b₀) : s.Guarded := by
  have hretry (d : Discipline) : (s.batch.serve (.retry d)).1.isOk = true ↔ s.batch.Awaits :=
    h.isOk_iff_awaits (·.refuses_retry d) (fun _ _ hp => hp.refuses_retry d)
      (fun _ _ hp ho => (hp.serve_retry d ho).1)
  have hfinish (d : Discipline) : (s.batch.serve (.finish d)).1.isOk = true ↔ s.batch.Awaits :=
    h.isOk_iff_awaits (·.refuses_finish d) (fun _ _ hp => hp.refuses_finish d)
      (fun _ _ hp ho => (hp.serve_finish d ho).1)
  refine ⟨h.isOk_run_iff, hretry, hfinish, ?_⟩
  intro r hr
  cases r with
  | run d =>
    have hruns : s.runs ≠ 0 := by
      rw [ne_eq, ← h.isOk_run_iff d, hr]
      exact Bool.false_ne_true
    cases h with
    | fresh hzero => exact absurd hzero hruns
    | paused _ hpaused => exact hpaused.rejects_run d
  | retry d =>
    apply rejects_retry d
    rw [← hretry d, hr]
    exact Bool.false_ne_true
  | finish d =>
    apply rejects_finish d
    rw [← hfinish d, hr]
    exact Bool.false_ne_true
  | say text severity => cases hr

/-- The calls of a session without some of those that were not accepted. -/
inductive Spares : List (Request × Reply) → List (Request × Reply) → Prop where
  | nil : Spares [] []
  | keep {xs ys} (call : Request × Reply) : Spares xs ys → Spares (xs ++ [call]) (ys ++ [call])
  | drop {xs ys} (r : Request) (fault : Fault) : Spares xs ys →
    Spares xs (ys ++ [(r, .error fault)])

theorem Spares.ofCalls (h : Fresh b₀ b₀) {requests : List Request} {kept : List (Request × Reply)}
    (hkept : Spares kept (Session.ofCalls b₀ requests).served)
    : (Session.ofCalls b₀ (kept.map (·.1))).served = kept ∧
        (Session.ofCalls b₀ (kept.map (·.1))).batch = (Session.ofCalls b₀ requests).batch := by
  induction requests using List.reverseRecOn generalizing kept with
  | nil =>
    generalize hserved : (Session.ofCalls b₀ []).served = served at hkept
    cases hkept with
    | nil => exact ⟨rfl, rfl⟩
    | keep => simp [Session.ofCalls] at hserved
    | drop => simp [Session.ofCalls] at hserved
  | append_singleton requests r ih =>
    rw [ofCalls_append] at hkept ⊢
    generalize hserved : ((Session.ofCalls b₀ requests).call r).served = served at hkept
    cases hkept with
    | nil => simp [call] at hserved
    | @keep xs ys c hxs =>
      rcases List.append_inj' hserved rfl with ⟨rfl, hc⟩
      rcases ih hxs with ⟨hanswers, hbatch⟩
      rw [← List.singleton_inj.1 hc, List.map_append, List.map_singleton, ofCalls_append]
      unfold call
      rw [hanswers, hbatch]
      exact ⟨rfl, rfl⟩
    | @drop xs ys r' fault hxs =>
      rcases List.append_inj' hserved rfl with ⟨rfl, hc⟩
      rcases ih hxs with ⟨hanswers, hbatch⟩
      refine ⟨hanswers, hbatch.trans ?_⟩
      -- a call that is answered with a fault was refused
      have hfault := congrArg Prod.snd (List.singleton_inj.1 hc)
      dsimp only at hfault
      cases (stands_ofCalls h requests).1.serve r with
      | inl hrefuses => exact (batch_of_refuses hrefuses).symm
      | inr hserve =>
        rw [hfault] at hserve
        exact absurd hserve.1 Bool.false_ne_true

end Session

namespace Batch

variable {b₀ : Batch}

/--
Whatever has been called on a new batch: it accepts a run just if none was accepted before, and a
retry or a finish just while a retry is on offer. Anything else is rejected and leaves it as it was;
so without any of the rejected calls the answers, the events and the batch are the same.
-/
theorem guarded_ofCalls {id : BatchId} {options : Options} {tasks : List Task}
    {channel : Option String} {clock : Nat → Instant}
    (hnew : Batch.new id options tasks channel clock = .ok b₀)
    (requests : List Request)
    : let s := Session.ofCalls b₀ requests
      s.Guarded ∧
      ∀ kept, Session.Spares kept s.served →
        let t := Session.ofCalls b₀ (kept.map (·.1))
        t.served = kept ∧ t.batch.board.told = s.batch.board.told ∧ t.batch = s.batch := by
  intro s
  have hfresh := fresh_new hnew
  refine ⟨(Session.stands_ofCalls hfresh requests).1.guarded, ?_⟩
  intro kept hkept
  rcases hkept.ofCalls hfresh with ⟨hserved, hbatch⟩
  exact ⟨hserved, congrArg (·.board.told) hbatch, hbatch⟩

/-- A second run is rejected, and the session goes on as if it had not been called. -/
theorem guarded_sample
    : let s := Session.ofCalls sample [.run .queued, .run .queued]
      s.Guarded ∧ (Session.ofCalls sample [.run .queued]).batch.board.told = s.batch.board.told ∧
        (Session.ofCalls sample [.run .queued]).batch = s.batch := by
  intro s
  have hfirst := ((guarded_ofCalls new_sample []).1.run .queued).2 rfl
  have hguarded := (guarded_ofCalls new_sample [.run .queued]).1
  have hruns : (Session.ofCalls sample [.run .queued]).runs = 1 :=
    Session.accepted_of_ok rfl hfirst
  have hsecond : ((Session.ofCalls sample [.run .queued]).batch.serve (.run .queued)).1.isOk =
      false := by
    rw [← Bool.not_eq_true, hguarded.run, hruns]
    exact Nat.one_ne_zero
  rcases hguarded.rejects _ hsecond with ⟨event, -, hserve⟩
  have hserved : s.served = (Session.ofCalls sample [.run .queued]).served ++
      [(.run .queued, ((Session.ofCalls sample [.run .queued]).batch.serve (.run .queued)).1)] :=
    rfl
  have hspares : Session.Spares (Session.ofCalls sample [.run .queued]).served s.served := by
    rw [hserved, hserve]
    exact .drop _ _ (.keep _ .nil)
  refine ⟨(guarded_ofCalls new_sample _).1, ?_⟩
  exact ((guarded_ofCalls new_sample [.run .queued, .run .queued]).2 _ hspares).2

end Batch

end SetupBatch
