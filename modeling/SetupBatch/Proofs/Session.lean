import SetupBatch.Proofs.Pause
import SetupBatch.Run

/-!
This module contains sessions: a batch with the calls on it so far. Which calls were accepted says
where the batch stands.
-/

namespace SetupBatch

namespace Batch

theorem ticketsFor_sublist (target : Target) (tasks : List Task)
    : (ticketsFor target tasks).Sublist (Ticket.admitAll tasks) := by
  unfold ticketsFor
  split
  . exact List.take_sublist 1 _
  . exact List.Sublist.refl _

theorem outcome_of_mem_ticketsFor {target : Target} {tasks : List Task} {t : Ticket}
    (ht : t ∈ ticketsFor target tasks) : t.outcome = none := by
  have hmem := (ticketsFor_sublist target tasks).mem ht
  unfold Ticket.admitAll at hmem
  rcases List.mem_map.1 hmem with ⟨pair, -, rfl⟩
  rfl

theorem exists_new (id : BatchId) {options : Options} (tasks : List Task) (channel : Option String)
    (clock : Nat → Instant)
    (h : ∀ bound, options.maxConcurrency = some bound → max bound 1 ≤ maxSlots)
    : ∃ b₀, Batch.new id options tasks channel clock = .ok b₀ ∧
        b₀.crew.slots.map (·.count) = options.maxConcurrency.map (max · 1) := by
  unfold Batch.new
  cases hbound : options.maxConcurrency with
  | none => exact ⟨_, rfl, rfl⟩
  | some bound =>
    unfold Slots.ofBound? Slots.ofBound
    dsimp only
    rw [dif_pos (h bound hbound)]
    exact ⟨_, rfl, rfl⟩

section New

variable {id : BatchId} {options : Options} {tasks : List Task} {channel : Option String}
  {clock : Nat → Instant} {b₀ : Batch} (h : Batch.new id options tasks channel clock = .ok b₀)

include h

theorem eq_of_new : ∃ slots, b₀ = {
    id, options
    crew := { slots, channel, strictElevation := options.strictElevation }
    shared := { board := .new options.retryBudget options.target clock }
    gate := { budget := options.retryBudget }
    pending := ticketsFor options.target tasks } := by
  unfold Batch.new at h
  cases hslots : Slots.ofBound? options.maxConcurrency with
  | error e =>
    rw [hslots] at h
    cases h
  | ok slots =>
    rw [hslots] at h
    cases h
    exact ⟨slots, rfl⟩

theorem fresh_new : Fresh b₀ b₀ := by
  rcases eq_of_new h with ⟨slots, rfl⟩
  constructor
  . constructor
    . exact (Ticket.ascending_admitAll tasks).sublist (ticketsFor_sublist _ _)
    . exact fun t ht => outcome_of_mem_ticketsFor ht
    . rfl
    . rfl
    . exact Board.InStep.new _ _ _
    . rfl
  . rfl
  . rfl
  . rfl
  . rfl
  . exact fun _ => rfl
  . exact fun _ => rfl

end New

/-- A call on a batch, with the way in which the workers of its pass come to their ends. -/
inductive Request where
  | run (d : Discipline)
  | retry (d : Discipline)
  | finish (d : Discipline)
  | say (text : String) (severity : Severity)

namespace Request

def isRun : Request → Bool
  | .run _ => true
  | _ => false

def isRetry : Request → Bool
  | .retry _ => true
  | _ => false

def isFinish : Request → Bool
  | .finish _ => true
  | _ => false

end Request

abbrev Reply := Except Fault (Option Answer)

def serve (b : Batch) : Request → Reply × Batch
  | .run d => ((b.run d).1.map fun s => some (.state s), (b.run d).2)
  | .retry d => ((b.retry d).1.map fun s => some (.state s), (b.retry d).2)
  | .finish d => ((b.finish d).1.map fun s => some (.summary s), (b.finish d).2)
  | .say text severity => (.ok none, b.say text severity)

def Refuses (b : Batch) (r : Request) : Prop :=
  ∃ rejection : Gate.Rejection, b.serve r = (.error rejection.fault, b)

def Offers (b₀ : Batch) (j : Nat) (dismissed : Bool) (b : Batch) : Prop :=
  0 < b.failed.length ∧ j < b₀.options.retryBudget ∧ dismissed = false

section Serve

variable {b₀ b b' : Batch} {j : Nat} {dismissed : Bool} (d : Discipline)

theorem serve_run_eq {reply : Except Fault Gate.State} (h : b.run d = (reply, b'))
    : b.serve (.run d) = (reply.map fun s => some (.state s), b') := by
  show ((b.run d).1.map _, (b.run d).2) = _
  rw [h]

theorem serve_retry_eq {reply : Except Fault Gate.State} (h : b.retry d = (reply, b'))
    : b.serve (.retry d) = (reply.map fun s => some (.state s), b') := by
  show ((b.retry d).1.map _, (b.retry d).2) = _
  rw [h]

theorem serve_finish_eq {reply : Except Fault Summary} (h : b.finish d = (reply, b'))
    : b.serve (.finish d) = (reply.map fun s => some (.summary s), b') := by
  show ((b.finish d).1.map _, (b.finish d).2) = _
  rw [h]

theorem refuses_run {r : Gate.Rejection} (h : b.gate.apply (.start b.pending.length) = .error r)
    : b.Refuses (.run d) := by
  have hrun : b.run d = (.error r.fault, b) := by
    unfold Batch.run
    rw [h]
  exact ⟨r, serve_run_eq d hrun⟩

theorem refuses_retry {r : Gate.Rejection} (h : b.gate.apply .retryRequested = .error r)
    : b.Refuses (.retry d) := by
  have hretry : b.retry d = (.error r.fault, b) := by
    unfold Batch.retry
    rw [h]
  exact ⟨r, serve_retry_eq d hretry⟩

theorem refuses_finish {r : Gate.Rejection} (h : b.gate.apply .dismissed = .error r)
    : b.Refuses (.finish d) := by
  have hfinish : b.finish d = (.error r.fault, b) := by
    unfold Batch.finish
    rw [h]
  exact ⟨r, serve_finish_eq d hfinish⟩

theorem Fresh.serve_run (h : Fresh b₀ b)
    : (b.serve (.run d)).1.isOk = true ∧ Paused b₀ 0 false (b.serve (.run d)).2 := by
  rcases h.run d with ⟨b', hrun, hpaused⟩
  rw [serve_run_eq d hrun]
  exact ⟨rfl, hpaused⟩

theorem Fresh.refuses_retry (h : Fresh b₀ b) : b.Refuses (.retry d) := by
  apply Batch.refuses_retry d (r := ⟨.idle, .retryRequested⟩)
  rw [h.gate]
  rfl

theorem Fresh.refuses_finish (h : Fresh b₀ b) : b.Refuses (.finish d) := by
  apply Batch.refuses_finish d (r := ⟨.idle, .dismissed⟩)
  rw [h.gate]
  rfl

namespace Paused

theorem apply_start (h : Paused b₀ j dismissed b) : b.gate.apply (.start b.pending.length) =
    .error ⟨b.gate.state, .start b.pending.length⟩ := by
  unfold Gate.apply
  rcases Gate.State.paused_cases b₀.options.retryBudget j b.failed.length dismissed
    with ⟨-, hstate⟩ | ⟨-, exhausted, hstate⟩
  . rw [h.state_eq, hstate]
    rfl
  . rw [h.state_eq, hstate]
    rfl

theorem refuses_run (h : Paused b₀ j dismissed b) : b.Refuses (.run d) :=
  Batch.refuses_run d h.apply_start

theorem state_of_offers (h : Paused b₀ j dismissed b) (ho : Offers b₀ j dismissed b)
    : b.gate.state = .awaitingRetry j b.failed.length := by
  rcases Gate.State.paused_cases b₀.options.retryBudget j b.failed.length dismissed
    with ⟨-, hstate⟩ | ⟨hnot, -⟩
  . rw [h.state_eq, hstate]
  . exact absurd ho hnot

theorem state_of_not_offers (h : Paused b₀ j dismissed b) (ho : ¬Offers b₀ j dismissed b)
    : ∃ exhausted, b.gate.state = .finished b.failed.length exhausted := by
  rcases Gate.State.paused_cases b₀.options.retryBudget j b.failed.length dismissed
    with ⟨hoffers, -⟩ | ⟨-, exhausted, hstate⟩
  . exact absurd hoffers ho
  . exact ⟨exhausted, h.state_eq.trans hstate⟩

theorem refuses_retry (h : Paused b₀ j dismissed b) (ho : ¬Offers b₀ j dismissed b)
    : b.Refuses (.retry d) := by
  rcases h.state_of_not_offers ho with ⟨exhausted, hstate⟩
  apply Batch.refuses_retry d (r := ⟨b.gate.state, .retryRequested⟩)
  unfold Gate.apply
  rw [hstate]
  rfl

theorem refuses_finish (h : Paused b₀ j dismissed b) (ho : ¬Offers b₀ j dismissed b)
    : b.Refuses (.finish d) := by
  rcases h.state_of_not_offers ho with ⟨exhausted, hstate⟩
  apply Batch.refuses_finish d (r := ⟨b.gate.state, .dismissed⟩)
  unfold Gate.apply
  rw [hstate]
  rfl

theorem serve_retry (h : Paused b₀ j dismissed b) (ho : Offers b₀ j dismissed b)
    : (b.serve (.retry d)).1.isOk = true ∧ Paused b₀ (j + 1) false (b.serve (.retry d)).2 := by
  rcases h.retry d ho.2.1 (h.state_of_offers ho) with ⟨b', hretry, hpaused⟩
  rw [serve_retry_eq d hretry]
  exact ⟨rfl, hpaused⟩

theorem serve_finish (h : Paused b₀ j dismissed b) (ho : Offers b₀ j dismissed b)
    : (b.serve (.finish d)).1.isOk = true ∧ Paused b₀ j true (b.serve (.finish d)).2 := by
  rcases h.finish d ho.2.1 (h.state_of_offers ho) ho.1 with ⟨b', hfinish, hpaused⟩
  rw [serve_finish_eq d hfinish]
  exact ⟨rfl, hpaused⟩

end Paused

end Serve

end Batch

structure Session where
  batch : Batch
  served : List (Batch.Request × Batch.Reply) := []

namespace Session

open Batch

def call (s : Session) (r : Request) : Session :=
  { batch := (s.batch.serve r).2, served := s.served ++ [(r, (s.batch.serve r).1)] }

def ofCalls (b : Batch) (requests : List Request) : Session := requests.foldl call { batch := b }

def accepted (s : Session) (kind : Request → Bool) : Nat :=
  s.served.countP fun (r, reply) => kind r && reply.isOk

def runs (s : Session) : Nat := s.accepted (·.isRun)

def retries (s : Session) : Nat := s.accepted (·.isRetry)

def finishes (s : Session) : Nat := s.accepted (·.isFinish)

theorem ofCalls_append (b : Batch) (requests : List Request) (r : Request)
    : ofCalls b (requests ++ [r]) = (ofCalls b requests).call r := by
  unfold ofCalls
  rw [List.foldl_append]
  rfl

/-- Where a session stands whose batch began as `b₀`. -/
inductive Stands (b₀ : Batch) (s : Session) : Prop where
  | fresh (runs : s.runs = 0) (retries : s.retries = 0) (finishes : s.finishes = 0)
      (batch : Fresh b₀ s.batch)
  | paused (runs : s.runs = 1) (batch : Paused b₀ s.retries (0 < s.finishes) s.batch)

def Sober (s : Session) : Prop :=
  ∀ call ∈ s.served, ∀ fault, call.2 = .error fault → fault.kind = .invalidTransition

variable {b₀ : Batch} {s : Session} {r : Request}

theorem accepted_call (s : Session) (r : Request) (kind : Request → Bool)
    : (s.call r).accepted kind =
        s.accepted kind + if kind r && (s.batch.serve r).1.isOk then 1 else 0 := by
  unfold accepted call
  rw [List.countP_append, List.countP_singleton]

theorem accepted_of_kind {kind : Request → Bool} (h : kind r = false)
    : (s.call r).accepted kind = s.accepted kind := by
  rw [accepted_call, h]
  rfl

theorem accepted_of_refuses (h : s.batch.Refuses r) (kind : Request → Bool)
    : (s.call r).accepted kind = s.accepted kind := by
  rcases h with ⟨rejection, hserve⟩
  rw [accepted_call, hserve]
  simp [Except.isOk, Except.toBool]

theorem accepted_of_ok {kind : Request → Bool} (hkind : kind r = true)
    (h : (s.batch.serve r).1.isOk = true)
    : (s.call r).accepted kind = s.accepted kind + 1 := by
  rw [accepted_call, hkind, h]
  rfl

theorem batch_of_refuses (h : s.batch.Refuses r) : (s.call r).batch = s.batch := by
  rcases h with ⟨rejection, hserve⟩
  unfold call
  rw [hserve]

theorem Stands.of_refuses (hs : s.Stands b₀) (h : s.batch.Refuses r) : (s.call r).Stands b₀ := by
  have haccepted := accepted_of_refuses h
  have hbatch := batch_of_refuses h
  cases hs with
  | fresh hruns hretries hfinishes hfresh =>
    apply fresh
    . exact (haccepted _).trans hruns
    . exact (haccepted _).trans hretries
    . exact (haccepted _).trans hfinishes
    . rw [hbatch]
      exact hfresh
  | paused hruns hpaused =>
    apply paused
    . exact (haccepted _).trans hruns
    . unfold retries finishes
      rw [hbatch, haccepted, haccepted]
      exact hpaused

inductive Granted (b₀ : Batch) (s : Session) : Request → Prop where
  | run (d : Discipline) : s.runs = 0 → s.retries = 0 → s.finishes = 0 → Fresh b₀ s.batch →
    Granted b₀ s (.run d)
  | retry (d : Discipline) : s.runs = 1 → s.finishes = 0 → Paused b₀ s.retries false s.batch →
    Offers b₀ s.retries false s.batch → Granted b₀ s (.retry d)
  | finish (d : Discipline) : s.runs = 1 → s.finishes = 0 → Paused b₀ s.retries false s.batch →
    Offers b₀ s.retries false s.batch → Granted b₀ s (.finish d)
  | say (text : String) (severity : Severity) : Granted b₀ s (.say text severity)

theorem Stands.granted (hs : s.Stands b₀) (r : Request) : s.batch.Refuses r ∨ s.Granted b₀ r := by
  cases hs with
  | fresh hruns hretries hfinishes hfresh =>
    cases r with
    | run d => exact .inr (.run d hruns hretries hfinishes hfresh)
    | retry d => exact .inl (hfresh.refuses_retry d)
    | finish d => exact .inl (hfresh.refuses_finish d)
    | say text severity => exact .inr (.say text severity)
  | paused hruns hpaused =>
    by_cases ho : Offers b₀ s.retries (0 < s.finishes) s.batch
    . have hfinishes : s.finishes = 0 := by simpa using ho.2.2
      rw [hfinishes] at hpaused ho
      cases r with
      | run d => exact .inl (hpaused.refuses_run d)
      | retry d => exact .inr (.retry d hruns hfinishes hpaused ho)
      | finish d => exact .inr (.finish d hruns hfinishes hpaused ho)
      | say text severity => exact .inr (.say text severity)
    . cases r with
      | run d => exact .inl (hpaused.refuses_run d)
      | retry d => exact .inl (hpaused.refuses_retry d ho)
      | finish d => exact .inl (hpaused.refuses_finish d ho)
      | say text severity => exact .inr (.say text severity)

theorem Stands.say (hs : s.Stands b₀) (text : String) (severity : Severity)
    : (s.call (.say text severity)).Stands b₀ := by
  have haccepted : ∀ kind : Request → Bool, kind (.say text severity) = false →
      (s.call (.say text severity)).accepted kind = s.accepted kind := fun _ => accepted_of_kind
  cases hs with
  | fresh hruns hretries hfinishes hfresh =>
    apply fresh
    . exact (haccepted _ rfl).trans hruns
    . exact (haccepted _ rfl).trans hretries
    . exact (haccepted _ rfl).trans hfinishes
    . exact hfresh.alike (.say hfresh.inStep.sound text severity) rfl
  | paused hruns hpaused =>
    apply paused
    . exact (haccepted _ rfl).trans hruns
    . unfold retries finishes
      rw [haccepted _ rfl, haccepted _ rfl]
      exact hpaused.alike (.say hpaused.inStep.sound text severity) rfl

section Granted

variable (d : Discipline)

theorem accepted_run (hruns : s.runs = 0) (h : Fresh b₀ s.batch)
    : (s.call (.run d)).runs = 1 ∧ (s.call (.run d)).retries = s.retries ∧
        (s.call (.run d)).finishes = s.finishes := by
  refine ⟨?_, accepted_of_kind rfl, accepted_of_kind rfl⟩
  refine (accepted_of_ok rfl (h.serve_run d).1).trans ?_
  exact congrArg (· + 1) hruns

theorem accepted_retry (h : Paused b₀ s.retries false s.batch)
    (ho : Offers b₀ s.retries false s.batch)
    : (s.call (.retry d)).runs = s.runs ∧ (s.call (.retry d)).retries = s.retries + 1 ∧
        (s.call (.retry d)).finishes = s.finishes :=
  ⟨accepted_of_kind rfl, accepted_of_ok rfl (h.serve_retry d ho).1, accepted_of_kind rfl⟩

theorem accepted_finish (h : Paused b₀ s.retries false s.batch)
    (ho : Offers b₀ s.retries false s.batch)
    : (s.call (.finish d)).runs = s.runs ∧ (s.call (.finish d)).retries = s.retries ∧
        (s.call (.finish d)).finishes = s.finishes + 1 :=
  ⟨accepted_of_kind rfl, accepted_of_kind rfl, accepted_of_ok rfl (h.serve_finish d ho).1⟩

end Granted

/-- A call is refused without effect, or it is accepted and leads to where it should. -/
theorem Stands.serve (hs : s.Stands b₀) (r : Request)
    : s.batch.Refuses r ∨ (s.batch.serve r).1.isOk = true ∧ (s.call r).Stands b₀ := by
  cases hs.granted r with
  | inl hrefuses => exact .inl hrefuses
  | inr hgranted =>
    right
    cases hgranted with
    | run d hruns hretries hfinishes hfresh =>
      have haccepted := accepted_run d hruns hfresh
      have hserve := hfresh.serve_run d
      refine ⟨hserve.1, .paused haccepted.1 ?_⟩
      rw [haccepted.2.1, haccepted.2.2, hretries, hfinishes]
      exact hserve.2
    | retry d hruns hfinishes hpaused ho =>
      have haccepted := accepted_retry d hpaused ho
      have hserve := hpaused.serve_retry d ho
      refine ⟨hserve.1, .paused (haccepted.1.trans hruns) ?_⟩
      rw [haccepted.2.1, haccepted.2.2, hfinishes]
      exact hserve.2
    | finish d hruns hfinishes hpaused ho =>
      have haccepted := accepted_finish d hpaused ho
      have hserve := hpaused.serve_finish d ho
      refine ⟨hserve.1, .paused (haccepted.1.trans hruns) ?_⟩
      rw [haccepted.2.1, haccepted.2.2, decide_eq_true (Nat.succ_pos s.finishes)]
      exact hserve.2
    | say text severity => exact ⟨rfl, hs.say text severity⟩

theorem Stands.call (hs : s.Stands b₀) (r : Request) : (s.call r).Stands b₀ := by
  cases hs.serve r with
  | inl hrefuses => exact hs.of_refuses hrefuses
  | inr hserve => exact hserve.2

theorem Sober.call (h : s.Sober) (hs : s.Stands b₀) (r : Request) : (s.call r).Sober := by
  intro call hcall fault hfault
  cases List.mem_append.1 hcall with
  | inl hmem => exact h call hmem fault hfault
  | inr heq =>
    rw [List.mem_singleton.1 heq] at hfault
    dsimp only at hfault
    cases hs.serve r with
    | inl hrefuses =>
      rcases hrefuses with ⟨rejection, hserve⟩
      rw [hserve] at hfault
      cases hfault
      rfl
    | inr hserve =>
      rw [hfault] at hserve
      simp [Except.isOk, Except.toBool] at hserve

theorem stands_ofCalls (h : Fresh b₀ b₀) (requests : List Request)
    : (ofCalls b₀ requests).Stands b₀ ∧ (ofCalls b₀ requests).Sober := by
  -- the last call meets the session of all calls before it
  induction requests using List.reverseRecOn with
  | nil => exact ⟨.fresh rfl rfl rfl h, by simp [ofCalls, Sober]⟩
  | append_singleton requests r ih =>
    rw [ofCalls_append]
    exact ⟨ih.1.call r, ih.2.call ih.1 r⟩

end Session

def Task.steady : Task where
  profile := { wording := .ofLabel "steady" }
  attempt _ := {}

def Task.flaky : Task where
  profile := { wording := .ofLabel "flaky" }
  attempt k := if k = 1 then { ending := .outcome .failed } else {}

def Batch.sample : Batch where
  id := ⟨⟨0⟩⟩
  options := {}
  crew := {}
  shared := { board := .new 1 .here }
  gate := { budget := 1 }
  pending := ticketsFor .here [.steady, .flaky]

theorem Batch.new_sample : Batch.new ⟨⟨0⟩⟩ {} [.steady, .flaky] = .ok sample := rfl

end SetupBatch
