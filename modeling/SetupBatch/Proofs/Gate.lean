import SetupBatch.Gate

/-!
This module contains the verification of the gate: what it makes of the events that it accepts, and
in which states it may be between two passes.
-/

namespace SetupBatch

namespace Gate

/--
All that a gate may do: the events that it accepts in a state, with their actions and the state
after them.
-/
inductive Moves (budget : Nat) : State → Event → List Action → State → Prop where
  | empty (message : String) :
      Moves budget .idle (.start 0) [.log message, .finishBatch] (.finished 0 false)
  | start (message : String) {tasks : Nat} : 0 < tasks →
      Moves budget .idle (.start tasks) [.log message, .runPass false] (.running 0 tasks)
  | clean (message : String) (used tasks : Nat) :
      Moves budget (.running used tasks) (.passDrained 0) [.log message, .finishBatch]
        (.finished 0 false)
  | exhaust (message : String) {used : Nat} (tasks : Nat) {failed : Nat} : budget ≤ used →
      0 < failed → Moves budget (.running used tasks) (.passDrained failed)
        [.log message, .announceExhausted failed, .finishBatch] (.finished failed true)
  | offer (message : String) {used : Nat} (tasks : Nat) {failed : Nat} : used < budget →
      0 < failed → Moves budget (.running used tasks) (.passDrained failed)
        [.log message, .offerRetry failed] (.awaitingRetry used failed)
  | retry (message : String) (used failed : Nat) :
      Moves budget (.awaitingRetry used failed) .retryRequested [.log message, .runPass true]
        (.running (used + 1) failed)
  | dismiss (message : String) (used failed : Nat) :
      Moves budget (.awaitingRetry used failed) .dismissed [.log message, .finishBatch]
        (.finished failed false)

theorem moves_of_transition {budget : Nat} {s s' : State} {e : Event} {actions : List Action}
    (h : transition s e budget = .ok (s', actions)) : Moves budget s e actions s' := by
  unfold transition at h
  split at h
  . cases h
    exact .empty _
  . next tasks hne =>
    cases h
    exact .start _ (Nat.pos_of_ne_zero hne)
  . cases h
    exact .clean _ _ _
  . next failed hne =>
    have hpos := Nat.pos_of_ne_zero hne
    split at h
    . next hspent =>
      cases h
      exact .exhaust _ _ hspent hpos
    . next hleft =>
      cases h
      exact .offer _ _ (Nat.not_le.1 hleft) hpos
  . cases h
    exact .retry _ _ _
  . cases h
    exact .dismiss _ _ _
  . cases h

theorem moves_of_apply {g g' : Gate} {e : Event} {actions : List Action}
    (h : g.apply e = .ok (actions, g'))
    : g'.budget = g.budget ∧ Moves g.budget g.state e actions g'.state := by
  unfold apply at h
  split at h
  . next htransition =>
    cases h
    exact ⟨rfl, moves_of_transition htransition⟩
  . cases h

theorem transition_eq_error {budget : Nat} {s : State} {e : Event} {r : Rejection}
    (h : transition s e budget = .error r) : r = ⟨s, e⟩ := by
  unfold transition at h
  split at h
  . cases h
  . cases h
  . cases h
  . split at h
    . cases h
    . cases h
  . cases h
  . cases h
  . cases h
    rfl

def State.paused (budget used failed : Nat) (dismissed : Bool) : State :=
  if failed = 0 then .finished 0 false
  else if dismissed then .finished failed false
  else if used < budget then .awaitingRetry used failed
  else .finished failed true

variable {g : Gate}

theorem apply_start_zero (h : g.state = .idle)
    : g.apply (.start 0) = .ok ([.log "No tasks to execute", .finishBatch],
        { g with state := .finished 0 false }) := by
  unfold apply
  rw [h]
  rfl

theorem apply_start (h : g.state = .idle) {tasks : Nat} (htasks : 0 < tasks)
    : g.apply (.start tasks) = .ok ([.log s!"Starting {tasks} tasks", .runPass false],
        { g with state := .running 0 tasks }) := by
  rcases Nat.exists_eq_succ_of_ne_zero (Nat.ne_of_gt htasks) with ⟨n, rfl⟩
  unfold apply
  rw [h]
  rfl

theorem apply_retryRequested {used failed : Nat} (h : g.state = .awaitingRetry used failed)
    : g.apply .retryRequested = .ok ([.log s!"Retrying {failed} failed tasks", .runPass true],
        { g with state := .running (used + 1) failed }) := by
  unfold apply
  rw [h]
  rfl

theorem apply_dismissed {used failed : Nat} (h : g.state = .awaitingRetry used failed)
    : g.apply .dismissed = .ok ([.log s!"Continuing with {failed} failed tasks", .finishBatch],
        { g with state := .finished failed false }) := by
  unfold apply
  rw [h]
  rfl

theorem apply_passDrained {used tasks : Nat} (h : g.state = .running used tasks) (failed : Nat)
    : ∃ actions, g.apply (.passDrained failed) =
        .ok (actions, { g with state := .paused g.budget used failed false }) := by
  unfold apply State.paused
  rw [h]
  cases failed with
  | zero => exact ⟨_, rfl⟩
  | succ n =>
    by_cases hspent : g.budget ≤ used
    . simp [transition, hspent, Nat.not_lt.2 hspent]
    . simp [transition, hspent, Nat.not_le.1 hspent]

theorem State.paused_cases (budget used failed : Nat) (dismissed : Bool)
    : (0 < failed ∧ used < budget ∧ dismissed = false) ∧
        paused budget used failed dismissed = .awaitingRetry used failed ∨
      ¬(0 < failed ∧ used < budget ∧ dismissed = false) ∧
        ∃ exhausted, paused budget used failed dismissed = .finished failed exhausted := by
  unfold paused
  split
  . next h =>
    right
    rw [h]
    exact ⟨by omega, false, rfl⟩
  . next h =>
    have hpos : 0 < failed := Nat.pos_of_ne_zero h
    cases dismissed with
    | true => simp
    | false =>
      by_cases hleft : used < budget
      . simp [hleft, hpos]
      . simp [hleft]

/-!
The actions of an accepted event: a pass is the last of them, and no other event asks for one.
-/

variable {g g' : Gate} {actions : List Action}

theorem actions_start {tasks : Nat} (h : g.apply (.start tasks) = .ok (actions, g'))
    : (∃ message, actions = [.log message, .runPass false]) ∨
        ∀ retry, .runPass retry ∉ actions := by
  have hmoves := (moves_of_apply h).2
  generalize g.state = s, g'.state = s' at hmoves
  cases hmoves with
  | empty => exact .inr (by simp)
  | start message => exact .inl ⟨message, rfl⟩

theorem actions_retryRequested (h : g.apply .retryRequested = .ok (actions, g'))
    : ∃ message, actions = [.log message, .runPass true] := by
  have hmoves := (moves_of_apply h).2
  generalize g.state = s, g'.state = s' at hmoves
  cases hmoves with
  | retry message => exact ⟨message, rfl⟩

theorem actions_dismissed (h : g.apply .dismissed = .ok (actions, g'))
    : ∀ retry, .runPass retry ∉ actions := by
  have hmoves := (moves_of_apply h).2
  generalize g.state = s, g'.state = s' at hmoves
  cases hmoves with
  | dismiss => simp

end Gate

end SetupBatch
